import TensorLang.Scalar
import TensorLang.Tree.Expr

set_option autoImplicit false

namespace TensorLang

-- What a tensor annotation writes between its brackets, one entry per axis.
inductive Domain (ν : Type) where
  | range (node : ν) (size : Nat)
  | set (name : Name ν)
  | dynamic (node : ν)

inductive TypeExpr (ν : Type) where
  | scalar (node : ν) (component : Scalar)
  | tensor (node : ν) (domains : List (Domain ν)) (block : TypeExpr ν) (column : Bool)
  | element (name : Name ν)
  | set (node : ν) (element : Name ν) (endpoints : List (Name ν))
  | tuple (node : ν) (element : Name ν) (lengthNode : ν) (length : Int)

variable {ν : Type}

def Domain.node : Domain ν → ν
  | .range node _ | .dynamic node => node
  | .set name => name.node

def TypeExpr.node : TypeExpr ν → ν
  | .scalar node .. | .tensor node .. | .set node .. | .tuple node .. => node
  | .element name => name.node

end TensorLang
