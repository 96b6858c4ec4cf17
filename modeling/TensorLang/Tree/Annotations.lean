import TensorLang.Tree.Program

set_option autoImplicit false

namespace TensorLang

variable {ν : Type}

-- The endpoints that are listed in an annotation. Blocks can hold no more than one such list.
def TypeExpr.endpoints : TypeExpr ν → List (Name ν)
  | .set _ _ endpoints => endpoints
  | .tensor _ _ block _ => block.endpoints
  | .scalar .. | .element _ | .tuple .. => []

mutual
def Stmt.annotations : Stmt ν → List (TypeExpr ν)
  | .variable declaration | .constant declaration => [declaration.type]
  | .branch _ _ thenBlock none => thenBlock.annotations
  | .branch _ _ thenBlock (some elseBlock) => thenBlock.annotations ++ elseBlock.annotations
  | .loop _ _ body | .forRange _ _ _ _ _ body | .forSet _ _ _ _ body => body.annotations
  | .print .. | .assign .. | .eval .. => []
def Block.annotations : Block ν → List (TypeExpr ν)
  | ⟨_, statements⟩ => stmtAnnotations statements
def stmtAnnotations : List (Stmt ν) → List (TypeExpr ν)
  | [] => []
  | statement :: rest => statement.annotations ++ stmtAnnotations rest
end

def Definition.annotations : Definition ν → List (TypeExpr ν)
  | .element declaration => declaration.fields.map FieldDecl.type
  | .external declaration => [declaration.type]
  | .routine declaration =>
      declaration.parameters.map ParameterDecl.type ++ declaration.results.map ResultDecl.type ++
        declaration.body.annotations
  | .constant declaration => [declaration.type]
  | .test _ => []

def Program.annotations (program : Program ν) : List (TypeExpr ν) :=
  program.definitions.flatMap Definition.annotations

end TensorLang
