import TensorLang.Tree.Builder

set_option autoImplicit false

namespace TensorLang

mutual
def Dense.number : Dense Place → Numbering (Dense Node)
  | .ints place values transposed => do
      place.moveCursor
      Builder.ints values transposed
  | .floats place values transposed => do
      place.moveCursor
      Builder.floats values transposed
  | .nested place rows transposed => do
      let rows ← numberRows rows
      place.moveCursor
      Builder.nested rows transposed
def numberRows : List (Dense Place) → Numbering (List (Dense Node))
  | [] => return []
  | row :: rows => return (← row.number) :: (← numberRows rows)
end

mutual
def Expr.number : Expr Place → Numbering (Expr Node)
  | .binary place operator left right => do
      let left ← left.number
      let right ← right.number
      place.moveCursor
      Builder.binary operator left right
  | .compare place operands operators => do
      let operands ← numberExprs operands
      place.moveCursor
      Builder.compare operands operators
  | .unary place operator operand => do
      let operand ← operand.number
      place.moveCursor
      Builder.unary operator operand
  | .transpose place operand => do
      let operand ← operand.number
      place.moveCursor
      Builder.transpose operand
  | .call place routine arguments => do
      let arguments ← numberExprs arguments
      place.moveCursor
      Builder.call routine arguments
  | .map place routine partials target => do
      let partials ← numberExprs partials
      place.moveCursor
      Builder.map routine partials target
  | .read place base indices => do
      let base ← base.number
      let indices ← numberIndices indices
      place.moveCursor
      Builder.read base indices
  | .field place base name => do
      let base ← base.number
      place.moveCursor
      Builder.field base name
  | .paren place inner => do
      let inner ← inner.number
      place.moveCursor
      Builder.paren inner
  | .int place value => do
      place.moveCursor
      Builder.int value
  | .float place value => do
      place.moveCursor
      Builder.float value
  | .bool place value => do
      place.moveCursor
      Builder.bool value
  | .dense literal => do
      let literal ← literal.number
      Builder.dense literal
  | .ident name => do
      name.node.moveCursor
      Builder.ident name.text
def numberExprs : List (Expr Place) → Numbering (List (Expr Node))
  | [] => return []
  | expression :: rest => return (← expression.number) :: (← numberExprs rest)
def Index.number : Index Place → Numbering (Index Node)
  | .slice place => do
      place.moveCursor
      Builder.slice
  | .at index => do
      let index ← index.number
      Builder.index index
def numberIndices : List (Index Place) → Numbering (List (Index Node))
  | [] => return []
  | index :: rest => return (← index.number) :: (← numberIndices rest)
end

def Domain.number : Domain Place → Numbering (Domain Node)
  | .range place size => do
      place.moveCursor
      Builder.range size
  | .set name => do
      name.node.moveCursor
      Builder.setDomain name.text
  | .dynamic place => do
      place.moveCursor
      Builder.dynamic

def numberDomains : List (Domain Place) → Numbering (List (Domain Node))
  | [] => return []
  | domain :: domains => return (← domain.number) :: (← numberDomains domains)

def TypeExpr.number : TypeExpr Place → Numbering (TypeExpr Node)
  | .scalar place component => do
      place.moveCursor
      Builder.scalar component
  | .tensor place domains block column => do
      let domains ← numberDomains domains
      let block ← block.number
      place.moveCursor
      Builder.tensor domains block column
  | .element name => do
      name.node.moveCursor
      Builder.elementType name.text
  | .set place member endpoints => do
      place.moveCursor
      Builder.set member endpoints
  | .tuple place member lengthPlace length => do
      place.moveCursor
      Builder.tuple member lengthPlace length

namespace Declaration

def numberValue : Option (Expr Place) → Numbering (Option (Expr Node))
  | none => return none
  | some value => return some (← value.number)

def number (declaration : Declaration Place) : Numbering (Declaration Node) := do
  let type ← declaration.type.number
  let value ← numberValue declaration.value
  declaration.node.moveCursor
  Builder.declaration declaration.name type value

end Declaration

mutual
def Stmt.number : Stmt Place → Numbering (Stmt Node)
  | .variable declaration => return .variable (← declaration.number)
  | .constant declaration => return .constant (← declaration.number)
  | .loop place condition ⟨bodyPlace, body⟩ => do
      let condition ← condition.number
      let body ← numberStmts body
      place.moveCursor
      Builder.loop condition bodyPlace body
  | .branch place condition ⟨thenPlace, thenBody⟩ none => do
      let condition ← condition.number
      let thenBody ← numberStmts thenBody
      place.moveCursor
      Builder.branch condition thenPlace thenBody none
  | .branch place condition ⟨thenPlace, thenBody⟩ (some ⟨elsePlace, elseBody⟩) => do
      let condition ← condition.number
      let thenBody ← numberStmts thenBody
      let elseBody ← numberStmts elseBody
      place.moveCursor
      Builder.branch condition thenPlace thenBody (some (elsePlace, elseBody))
  | .forRange place counter domainPlace lower upper ⟨bodyPlace, body⟩ => do
      let lower ← lower.number
      let upper ← upper.number
      let body ← numberStmts body
      place.moveCursor
      Builder.forRange counter domainPlace lower upper bodyPlace body
  | .forSet place counter domainPlace set ⟨bodyPlace, body⟩ => do
      let body ← numberStmts body
      place.moveCursor
      Builder.forSet counter domainPlace set bodyPlace body
  | .print place value => do
      let value ← value.number
      place.moveCursor
      Builder.print value
  | .assign place targets value => do
      let targets ← numberExprs targets
      let value ← value.number
      place.moveCursor
      Builder.assign targets value
  | .eval place value => do
      let value ← value.number
      place.moveCursor
      Builder.eval value
def numberStmts : List (Stmt Place) → Numbering (List (Stmt Node))
  | [] => return []
  | statement :: rest => return (← statement.number) :: (← numberStmts rest)
end

namespace ElementDecl

def numberFields : List (FieldDecl Place) → Numbering (List FieldDraft)
  | [] => return []
  | field :: fields => do
      let type ← field.type.number
      return ⟨field.node, field.name, type⟩ :: (← numberFields fields)

def number (declaration : ElementDecl Place) : Numbering (ElementDecl Node) := do
  let fields ← numberFields declaration.fields
  declaration.node.moveCursor
  Builder.element declaration.name fields

end ElementDecl

def ExternalDecl.number (declaration : ExternalDecl Place) : Numbering (ExternalDecl Node) := do
  let type ← declaration.type.number
  declaration.node.moveCursor
  Builder.external declaration.name type

namespace RoutineDecl

def numberParameters : List (ParameterDecl Place) → Numbering (List (ParameterDecl Node))
  | [] => return []
  | parameter :: rest => do
      let type ← parameter.type.number
      parameter.node.moveCursor
      let parameter ← Builder.parameter parameter.name parameter.inout type
      return parameter :: (← numberParameters rest)

def numberResults : List (ResultDecl Place) → Numbering (List (ResultDecl Node))
  | [] => return []
  | result :: rest => do
      let type ← result.type.number
      result.node.moveCursor
      let result ← Builder.result result.name type
      return result :: (← numberResults rest)

def number (declaration : RoutineDecl Place) : Numbering (RoutineDecl Node) := do
  let parameters ← numberParameters declaration.parameters
  let results ← numberResults declaration.results
  let body ← numberStmts declaration.body.statements
  declaration.node.moveCursor
  Builder.routine declaration.word declaration.name parameters results declaration.body.node body

end RoutineDecl

def TestDecl.number (declaration : TestDecl Place) : Numbering (TestDecl Node) := do
  let arguments ← numberExprs declaration.arguments
  let expected ← declaration.expected.number
  declaration.node.moveCursor
  Builder.test declaration.routine arguments expected

def Definition.number : Definition Place → Numbering (Definition Node)
  | .element declaration => return .element (← declaration.number)
  | .external declaration => return .external (← declaration.number)
  | .routine declaration => return .routine (← declaration.number)
  | .constant declaration => return .constant (← declaration.number)
  | .test declaration => return .test (← declaration.number)

def numberDefinitions : List (Definition Place) → Numbering (List (Definition Node))
  | [] => return []
  | definition :: rest => return (← definition.number) :: (← numberDefinitions rest)

namespace Program

def number (program : Program Place) : Numbering (Program Node) := do
  let definitions ← numberDefinitions program.definitions
  program.node.moveCursor
  Builder.sourceFile definitions

def numbered (first : Nat) (draft : Program Place) : Program Node :=
  (draft.number ⟨first, .origin⟩).1

end Program

end TensorLang
