import TensorLang.Tree.Program

set_option autoImplicit false

namespace TensorLang

mutual
-- The expression and those inside it, in the order in which they are checked.
def Expr.ids : Expr Node → List Nat
  | .binary node _ left right => left.ids ++ right.ids ++ [node.id]
  | .compare node operands _ => exprIds operands ++ [node.id]
  | .unary node _ operand => operand.ids ++ [node.id]
  | .transpose node operand => operand.ids ++ [node.id]
  | .call node _ arguments => exprIds arguments ++ [node.id]
  | .map node _ partials _ => exprIds partials ++ [node.id]
  | .read node base indices => base.ids ++ indexIds indices ++ [node.id]
  | .field node base _ => base.ids ++ [node.id]
  | .paren node inner => inner.ids ++ [node.id]
  | .int node _ | .float node _ | .bool node _ => [node.id]
  | .dense literal => [literal.node.id]
  | .ident name => [name.node.id]
def exprIds : List (Expr Node) → List Nat
  | [] => []
  | expression :: rest => expression.ids ++ exprIds rest
def indexIds : List (Index Node) → List Nat
  | [] => []
  | .slice _ :: rest => indexIds rest
  | .at index :: rest => index.ids ++ indexIds rest
end

def valueIds : Option (Expr Node) → List Nat
  | none => []
  | some value => value.ids

mutual
def Stmt.expressionIds : Stmt Node → List Nat
  | .variable declaration | .constant declaration => valueIds declaration.value
  | .loop _ condition body => condition.ids ++ body.expressionIds
  | .branch _ condition thenBlock none => condition.ids ++ thenBlock.expressionIds
  | .branch _ condition thenBlock (some elseBlock) =>
      condition.ids ++ (thenBlock.expressionIds ++ elseBlock.expressionIds)
  | .forRange _ _ _ lower upper body => lower.ids ++ upper.ids ++ body.expressionIds
  | .forSet _ _ _ _ body => body.expressionIds
  | .print _ value => value.ids
  | .assign _ targets value => value.ids ++ exprIds targets
  | .eval _ value => value.ids
def Block.expressionIds : Block Node → List Nat
  | ⟨_, statements⟩ => stmtExpressionIds statements
def stmtExpressionIds : List (Stmt Node) → List Nat
  | [] => []
  | statement :: rest => statement.expressionIds ++ stmtExpressionIds rest
end

def Definition.expressionIds : Definition Node → List Nat
  | .routine declaration => declaration.body.expressionIds
  | .constant declaration => valueIds declaration.value
  | .element _ | .external _ | .test _ => []

mutual
def Dense.rowIds : Dense Node → List Nat
  | .ints .. | .floats .. => []
  | .nested _ rows _ => denseIds rows
def denseIds : List (Dense Node) → List Nat
  | [] => []
  | row :: rest => row.node.id :: (row.rowIds ++ denseIds rest)
end

mutual
-- The names, slices and rows of literals inside an expression.
def Expr.partIds : Expr Node → List Nat
  | .binary _ _ left right => left.partIds ++ right.partIds
  | .compare _ operands _ => exprPartIds operands
  | .unary _ _ operand | .transpose _ operand => operand.partIds
  | .call _ routine arguments => routine.node.id :: exprPartIds arguments
  | .map _ routine partials target =>
      routine.node.id :: target.node.id :: exprPartIds partials
  | .read _ base indices => base.partIds ++ indexPartIds indices
  | .field _ base name => name.node.id :: base.partIds
  | .paren _ inner => inner.partIds
  | .int .. | .float .. | .bool .. | .ident _ => []
  | .dense literal => literal.rowIds
def exprPartIds : List (Expr Node) → List Nat
  | [] => []
  | expression :: rest => expression.partIds ++ exprPartIds rest
def indexPartIds : List (Index Node) → List Nat
  | [] => []
  | .slice node :: rest => node.id :: indexPartIds rest
  | .at index :: rest => index.partIds ++ indexPartIds rest
end

def Domain.id (domain : Domain Node) : Nat := domain.node.id

def TypeExpr.ids : TypeExpr Node → List Nat
  | .scalar node _ => [node.id]
  | .tensor node domains block _ => node.id :: (domains.map Domain.id ++ block.ids)
  | .element name => [name.node.id]
  | .set node member endpoints =>
      node.id :: member.node.id :: endpoints.map fun name => name.node.id
  | .tuple node member lengthNode _ => [node.id, member.node.id, lengthNode.id]

def Declaration.partIds (declaration : Declaration Node) : List Nat :=
  declaration.node.id :: declaration.name.node.id ::
    (declaration.type.ids ++ declaration.value.elim [] Expr.partIds)

mutual
def Stmt.partIds : Stmt Node → List Nat
  | .variable declaration | .constant declaration => declaration.partIds
  | .loop node condition body => node.id :: (condition.partIds ++ body.partIds)
  | .branch node condition thenBlock none => node.id :: (condition.partIds ++ thenBlock.partIds)
  | .branch node condition thenBlock (some elseBlock) =>
      node.id :: (condition.partIds ++ (thenBlock.partIds ++ elseBlock.partIds))
  | .forRange node counter domain lower upper body =>
      node.id :: counter.node.id :: domain.id ::
        (lower.partIds ++ upper.partIds ++ body.partIds)
  | .forSet node counter domain set body =>
      node.id :: counter.node.id :: domain.id :: set.node.id :: body.partIds
  | .print node value => node.id :: value.partIds
  | .assign node targets value => node.id :: (value.partIds ++ exprPartIds targets)
  | .eval node value => node.id :: value.partIds
def Block.partIds : Block Node → List Nat
  | ⟨node, statements⟩ => node.id :: stmtPartIds statements
def stmtPartIds : List (Stmt Node) → List Nat
  | [] => []
  | statement :: rest => statement.partIds ++ stmtPartIds rest
end

def FieldDecl.ids (field : FieldDecl Node) : List Nat :=
  field.node.id :: field.name.node.id :: field.type.ids

def ParameterDecl.ids (parameter : ParameterDecl Node) : List Nat :=
  parameter.node.id :: parameter.name.node.id :: parameter.type.ids

def ResultDecl.ids (result : ResultDecl Node) : List Nat :=
  result.node.id :: result.name.node.id :: result.type.ids

-- All nodes of a definition but the expressions that are checked.
def Definition.partIds : Definition Node → List Nat
  | .element declaration =>
      declaration.node.id :: declaration.name.node.id :: declaration.fields.flatMap FieldDecl.ids
  | .external declaration =>
      declaration.node.id :: declaration.name.node.id :: declaration.type.ids
  | .routine declaration =>
      declaration.node.id :: declaration.name.node.id ::
        (declaration.parameters.flatMap ParameterDecl.ids ++
          declaration.results.flatMap ResultDecl.ids ++ declaration.body.partIds)
  | .constant declaration => declaration.partIds
  | .test declaration =>
      declaration.node.id :: declaration.routine.node.id ::
        (exprIds declaration.arguments ++ exprPartIds declaration.arguments ++
          declaration.expected.ids ++ declaration.expected.partIds)

namespace Program

def expressionIds (program : Program Node) : List Nat :=
  program.definitions.flatMap Definition.expressionIds

def partIds (program : Program Node) : List Nat :=
  program.node.id :: program.definitions.flatMap Definition.partIds

def DistinctIds (program : Program Node) : Prop :=
  (program.expressionIds ++ program.partIds).Nodup

instance (program : Program Node) : Decidable program.DistinctIds :=
  inferInstanceAs (Decidable (List.Nodup _))

end Program

end TensorLang
