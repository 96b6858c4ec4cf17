import TensorLang.Tree.Program

set_option autoImplicit false

namespace TensorLang

inductive Mention where
  | variable (name : String)
  | element (name : String)
  | routine (name : String)
deriving DecidableEq, Repr

variable {ν : Type}

mutual
def Expr.mentions : Expr ν → List Mention
  | .binary _ _ left right => left.mentions ++ right.mentions
  | .compare _ operands _ => exprMentions operands
  | .unary _ _ operand | .transpose _ operand => operand.mentions
  | .call _ routine arguments => .routine routine.text :: exprMentions arguments
  | .map _ routine partials target =>
      .routine routine.text :: .variable target.text :: exprMentions partials
  | .read _ base indices => base.mentions ++ indexMentions indices
  | .field _ base _ => base.mentions
  | .paren _ inner => inner.mentions
  | .int .. | .float .. | .bool .. | .dense _ => []
  | .ident name => [.variable name.text]
def exprMentions : List (Expr ν) → List Mention
  | [] => []
  | expression :: rest => expression.mentions ++ exprMentions rest
def indexMentions : List (Index ν) → List Mention
  | [] => []
  | .slice _ :: rest => indexMentions rest
  | .at index :: rest => index.mentions ++ indexMentions rest
end

def valueMentions : Option (Expr ν) → List Mention
  | none => []
  | some value => value.mentions

def Domain.mentions : Domain ν → List Mention
  | .set name => [.variable name.text]
  | .range .. | .dynamic _ => []

def TypeExpr.mentions : TypeExpr ν → List Mention
  | .scalar .. => []
  | .tensor _ domains block _ => block.mentions ++ domains.flatMap Domain.mentions
  | .element name => [.element name.text]
  | .set _ member endpoints =>
      .element member.text :: endpoints.map fun name => .variable name.text
  | .tuple _ member _ _ => [.element member.text]

def Declaration.mentions (declaration : Declaration ν) : List Mention :=
  .variable declaration.name.text ::
    (declaration.type.mentions ++ valueMentions declaration.value)

mutual
def Stmt.mentions : Stmt ν → List Mention
  | .variable declaration | .constant declaration => declaration.mentions
  | .loop _ condition body => condition.mentions ++ body.mentions
  | .branch _ condition thenBlock none => condition.mentions ++ thenBlock.mentions
  | .branch _ condition thenBlock (some elseBlock) =>
      condition.mentions ++ (thenBlock.mentions ++ elseBlock.mentions)
  | .forRange _ counter _ lower upper body =>
      .variable counter.text :: (lower.mentions ++ (upper.mentions ++ body.mentions))
  | .forSet _ counter _ set body =>
      .variable counter.text :: .variable set.text :: body.mentions
  | .print _ value | .eval _ value => value.mentions
  | .assign _ targets value => value.mentions ++ exprMentions targets
def Block.mentions : Block ν → List Mention
  | ⟨_, statements⟩ => stmtMentions statements
def stmtMentions : List (Stmt ν) → List Mention
  | [] => []
  | statement :: rest => statement.mentions ++ stmtMentions rest
end

def ParameterDecl.mentions (parameter : ParameterDecl ν) : List Mention :=
  .variable parameter.name.text :: parameter.type.mentions

def ResultDecl.mentions (result : ResultDecl ν) : List Mention :=
  .variable result.name.text :: result.type.mentions

def Definition.mentions : Definition ν → List Mention
  | .element declaration =>
      .element declaration.name.text ::
        declaration.fields.flatMap fun field => field.type.mentions
  | .external declaration => .variable declaration.name.text :: declaration.type.mentions
  | .routine declaration =>
      .routine declaration.name.text ::
        (declaration.parameters.flatMap ParameterDecl.mentions ++
          (declaration.results.flatMap ResultDecl.mentions ++ declaration.body.mentions))
  | .constant declaration => declaration.mentions
  | .test declaration =>
      .routine declaration.routine.text ::
        (exprMentions declaration.arguments ++ declaration.expected.mentions)

end TensorLang
