import TensorLang.Tensor.Text
import TensorLang.Ty.Basic

set_option autoImplicit false

namespace TensorLang

namespace Ty

def text : Ty → String
  | .tensor shape => shape.text Var.name
  | .set member endpoints =>
      "set\x7b" ++ member.text ++ "\x7d" ++
        if endpoints.isEmpty then "" else "(" ++ ",".intercalate (endpoints.map Var.name) ++ ")"
  | .tuple member length => "(" ++ member.text ++ "*" ++ toString length ++ ")"
  | .element record => record.name

def quoted (type : Ty) : String := "'" ++ type.text ++ "'"

def listText : List Ty → String
  | [] => "void"
  | [type] => type.quoted
  | types => "(" ++ ", ".intercalate (types.map quoted) ++ ")"

end Ty

end TensorLang
