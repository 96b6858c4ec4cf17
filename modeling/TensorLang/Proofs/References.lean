import TensorLang.Proofs.Registries
import TensorLang.Proofs.RuleViews
import TensorLang.Tree.Names

set_option autoImplicit false

namespace TensorLang

-- What stands around a reference: the symbols it is looked up among, and the names of the
-- declarations that are in scope.
structure Environment where
  table : SymbolTable
  scope : List String

structure Reference where
  name : Name Node
  mode : Mode
  around : Environment
  visited : Bool

namespace Reference

def isUnbound (reference : Reference) : Bool :=
  (reference.around.table.symbol? reference.name.text).isNone

-- A name that is about to be declared need not be bound.
def isReported (reference : Reference) : Bool :=
  reference.visited && reference.mode != .define && reference.isUnbound

def error (reference : Reference) : TypeError :=
  ⟨reference.name.node.span, .undeclared .variable reference.name.text⟩

def visitedIf (visited : Bool) (reference : Reference) : Reference :=
  { reference with visited := reference.visited && visited }

end Reference

mutual
def Expr.references (around : Environment) (mode : Mode) : Expr Node → List Reference
  | .binary _ _ left right => left.references around .read ++ right.references around .read
  | .compare _ operands _ => exprReferences around operands
  | .unary _ _ operand | .transpose _ operand => operand.references around .read
  | .call _ _ arguments => exprReferences around arguments
  | .map _ _ partials _ => exprReferences around partials
  | .read _ base indices =>
      let types := (base.infer around.table mode.ofBase).value
      base.references around mode.ofBase ++
        (indexReferences around indices).map
          (Reference.visitedIf (types.takesPositions indices.length))
  | .field _ base _ => base.references around mode.ofBase
  | .paren _ inner => inner.references around mode
  | .int .. | .float .. | .bool .. | .dense _ => []
  | .ident name => [⟨name, mode, around, true⟩]
def exprReferences (around : Environment) : List (Expr Node) → List Reference
  | [] => []
  | operand :: rest => operand.references around .read ++ exprReferences around rest
def indexReferences (around : Environment) : List (Index Node) → List Reference
  | [] => []
  | .slice _ :: rest => indexReferences around rest
  | .at index :: rest => index.references around .read ++ indexReferences around rest
end

def valueReferences (around : Environment) : Option (Expr Node) → List Reference
  | none => []
  | some value => value.references around .read

-- The names of the slots that are bound: those whose annotations can be resolved.
def boundSlots (table : SymbolTable) : List Slot → List String
  | [] => []
  | slot :: rest =>
      match (slot.type.resolve table).value with
      | none => boundSlots table rest
      | some type => slot.name :: boundSlots (table.bind slot.name (some type) slot.access) rest

def RoutineDecl.boundNames (table : SymbolTable) (declaration : RoutineDecl Node) : List String :=
  let parameters := declaration.parameters.map ParameterDecl.slot
  boundSlots (bindSlots table.push parameters).value.1
      (declaration.results.map ResultDecl.slot) ++
    boundSlots table.push parameters

namespace Environment

def push (around : Environment) : Environment := ⟨around.table.push, around.scope⟩

def counting (around : Environment) (counter : Name Node) : Environment :=
  ⟨around.table.bindCounter counter, counter.text :: around.scope⟩

def after (around : Environment) (statement : Stmt Node) : Environment :=
  ⟨(statement.check around.table).value, statement.declares ++ around.scope⟩

-- What a block declares is out of scope after it.
def afterBlock (around : Environment) (block : Block Node) : Environment :=
  ⟨(block.check around.table.push).value.pop, around.scope⟩

def inside (around : Environment) (declaration : RoutineDecl Node) : Environment :=
  ⟨declaration.bodyTable around.table, declaration.boundNames around.table ++ around.scope⟩

def afterDefinition (around : Environment) (definition : Definition Node) : Environment :=
  ⟨(definition.check around.table).value, definition.declares ++ around.scope⟩

def initial (intrinsics : Bool) : Environment :=
  ⟨(SymbolTable.empty.registering (SymbolTable.initial intrinsics)).value, []⟩

end Environment

mutual
def Stmt.references (around : Environment) : Stmt Node → List Reference
  | .variable declaration | .constant declaration => valueReferences around declaration.value
  | .loop _ condition body => condition.references around .read ++ body.references around.push
  | .branch _ condition thenBlock none =>
      condition.references around .read ++ thenBlock.references around.push
  | .branch _ condition thenBlock (some elseBlock) =>
      condition.references around .read ++ thenBlock.references around.push ++
        elseBlock.references (around.afterBlock thenBlock).push
  | .forRange _ counter _ lower upper body =>
      lower.references around.push .read ++ upper.references around.push .read ++
        body.references (around.push.counting counter)
  | .forSet _ counter _ _ body => body.references (around.push.counting counter)
  | .print _ value | .eval _ value => value.references around .read
  | .assign _ targets value =>
      value.references around .read ++
        targets.flatMap fun target => target.references around target.targetMode
def Block.references (around : Environment) : Block Node → List Reference
  | ⟨_, statements⟩ => stmtReferences around statements
def stmtReferences (around : Environment) : List (Stmt Node) → List Reference
  | [] => []
  | statement :: rest =>
      statement.references around ++ stmtReferences (around.after statement) rest
end

def Definition.references (around : Environment) : Definition Node → List Reference
  | .routine declaration => declaration.body.references (around.inside declaration)
  | .constant declaration => valueReferences around declaration.value
  | .element _ | .external _ | .test _ => []

def definitionReferences (around : Environment) : List (Definition Node) → List Reference
  | [] => []
  | definition :: rest =>
      definition.references around ++ definitionReferences (around.afterDefinition definition) rest

def Program.references (program : Program Node) (intrinsics : Bool) : List Reference :=
  definitionReferences (.initial intrinsics) program.definitions

end TensorLang
