import TensorLang.Tensor.Basic

set_option autoImplicit false

namespace TensorLang

mutual
inductive Ty where
  | tensor (shape : TensorType Var)
  -- A set of elements. A set with endpoints holds edges between members of other sets.
  | set (member : Ty) (endpoints : List Var)
  | tuple (member : Ty) (length : Nat)
  | element (record : Element)
-- A variable, constant, parameter or result. Its type is absent when its annotation failed.
structure Var where
  id : Nat
  name : String
  type? : Option Ty
structure Field where
  name : String
  type : Ty
structure Element where
  name : String
  fields : List Field
end

instance : BEq Var := ⟨fun left right => left.id == right.id⟩

instance : BEq Element := ⟨fun left right => left.name == right.name⟩

def Element.field? (element : Element) (name : String) : Option Field :=
  element.fields.find? (·.name == name)

namespace Ty

def same : Ty → Ty → Bool
  | .tensor left, .tensor right => left == right
  | .set left leftEnds, .set right rightEnds => left.same right && leftEnds == rightEnds
  | .tuple left leftLength, .tuple right rightLength =>
      left.same right && leftLength == rightLength
  | .element left, .element right => left == right
  | _, _ => false

instance : BEq Ty := ⟨same⟩

def int : Ty := .tensor (.scalar .int)

def float : Ty := .tensor (.scalar .float)

def bool : Ty := .tensor (.scalar .bool)

def ofScalar (component : Scalar) : Ty := .tensor (.scalar component)

def tensor? : Ty → Option (TensorType Var)
  | .tensor shape => some shape
  | _ => none

def set? : Ty → Option (Ty × List Var)
  | .set member endpoints => some (member, endpoints)
  | _ => none

def tuple? : Ty → Option (Ty × Nat)
  | .tuple member length => some (member, length)
  | _ => none

def element? : Ty → Option Element
  | .element record => some record
  | _ => none

def isScalar (type : Ty) : Bool := type.tensor?.any TensorType.isScalar

def isScalarOf (component : Scalar) (type : Ty) : Bool :=
  type.tensor?.any fun tensor => tensor.isScalar && tensor.component == component

def isBool : Ty → Bool := isScalarOf .bool

def isInt : Ty → Bool := isScalarOf .int

def isEdgeSet : Ty → Bool
  | .set _ endpoints => !endpoints.isEmpty
  | _ => false

end Ty

end TensorLang
