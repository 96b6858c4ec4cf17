import TensorLang.Tree.Program

set_option autoImplicit false

namespace TensorLang

variable {ν : Type}

-- What an expression declares where it is the target of an assignment.
def Expr.declares : Expr ν → List String
  | .ident name => [name.text]
  | _ => []

def Stmt.declares : Stmt ν → List String
  | .variable declaration | .constant declaration => [declaration.name.text]
  | .assign _ targets _ => targets.flatMap Expr.declares
  | .loop .. | .branch .. | .forRange .. | .forSet .. | .print .. | .eval .. => []

def Definition.declares : Definition ν → List String
  | .external declaration => [declaration.name.text]
  | .constant declaration => [declaration.name.text]
  | .element _ | .routine _ | .test _ => []

-- The variable that changes when the place an expression stands for is written to.
def Expr.underlying? : Expr ν → Option (Name ν)
  | .ident name => some name
  | .paren _ inner => inner.underlying?
  | .read _ base _ | .field _ base _ => base.underlying?
  | _ => none

end TensorLang
