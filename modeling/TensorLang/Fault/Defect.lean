import TensorLang.Ty.Text

set_option autoImplicit false

namespace TensorLang

inductive Ty.Form where
  | tensor
  | set
  | tuple
  | element
deriving DecidableEq, Repr

def Ty.Form.text : Ty.Form → String
  | .tensor => "tensor"
  | .set => "set"
  | .tuple => "tuple"
  | .element => "element"

inductive Registered where
  | symbol
  | elementType
  | routine
  | setType
deriving DecidableEq, Repr

def Registered.text : Registered → String
  | .symbol => "symbol"
  | .elementType => "element type"
  | .routine => "function"
  | .setType => "set type"

inductive Duplicate where
  | element (name : String)
  | routine (name : String)
deriving DecidableEq, Repr

def Duplicate.message : Duplicate → String
  | .element name => "Element type `" ++ name ++ "` is already registered"
  | .routine name => "Function `" ++ name ++ "` is already registered"

-- A promise that the checker itself has broken.
inductive Defect where
  | narrowing (expected : Ty.Form) (found : Ty)
  | missing (what : Registered) (name : String)
  | duplicate (cause : Duplicate)
  | endpointCount (count : Nat)
  | axis (cause : MissingAxis)

def Defect.message : Defect → String
  | .narrowing expected found =>
      "internal invariant violated: expected a " ++ expected.text ++ " type but found " ++
        found.quoted
  | .missing what name =>
      "internal invariant violated: " ++ what.text ++ " '" ++ name ++ "' is not registered"
  | .duplicate cause => cause.message
  | .endpointCount count =>
      "internal invariant violated: an edge set has " ++ toString count ++ " endpoints"
  | .axis cause =>
      "index out of bounds: the len is " ++ toString cause.order ++ " but the index is " ++
        toString cause.index

-- The view of a type that is known to have one, and the defect otherwise.
def Ty.narrow {α : Type} (expected : Ty.Form) (view : Ty → Option α) (type : Ty) :
    Except Defect α :=
  match view type with
  | some part => .ok part
  | none => .error (.narrowing expected type)

namespace Ty

def toTensor : Ty → Except Defect (TensorType Var) := narrow .tensor tensor?

def toSet : Ty → Except Defect (Ty × List Var) := narrow .set set?

def toTuple : Ty → Except Defect (Ty × Nat) := narrow .tuple tuple?

def toElement : Ty → Except Defect Element := narrow .element element?

end Ty

def Var.setType (var : Var) : Except Defect (Ty × List Var) :=
  match var.type? with
  | some type => type.toSet
  | none => .error (.missing .setType var.name)

end TensorLang
