set_option autoImplicit false

namespace TensorLang

inductive Scalar where
  | int
  | float
  | bool
deriving DecidableEq, Repr

namespace Scalar

def text : Scalar → String
  | .int => "int"
  | .float => "float"
  | .bool => "bool"

def isNumeric : Scalar → Bool
  | .int | .float => true
  | .bool => false

end Scalar

end TensorLang
