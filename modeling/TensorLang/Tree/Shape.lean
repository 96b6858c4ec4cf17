import TensorLang.Scalar
import TensorLang.Tree.Expr

set_option autoImplicit false

namespace TensorLang

structure Shape where
  component : Scalar
  sizes : List Nat
deriving DecidableEq, Repr

inductive ShapeFault where
  | component
  | sizes
  | empty
deriving DecidableEq, Repr

def ShapeFault.message : ShapeFault → String
  | .component => "dense tensor literal mixes int and float components"
  | .sizes => "dense tensor literal rows have mismatched dimensions"
  | .empty => "dense tensor literal must contain at least one element"

def Shape.maxSize : Nat := UInt32.size - 1

-- The shape of a vector. Lengths beyond the largest size count as the largest.
def Shape.vector (component : Scalar) (length : Nat) : Shape :=
  ⟨component, [min length maxSize]⟩

variable {ν : Type}

mutual
def Dense.shape : Dense ν → Except ShapeFault Shape
  | .ints _ values _ => .ok (.vector .int values.length)
  | .floats _ values _ => .ok (.vector .float values.length)
  | .nested _ [] _ => .error .empty
  | .nested _ (first :: rest) _ => do
      let shape ← first.shape
      let count ← countRows shape rest
      return ⟨shape.component, (count + 1) :: shape.sizes⟩
def countRows (shape : Shape) : List (Dense ν) → Except ShapeFault Nat
  | [] => return 0
  | row :: rows => do
      let other ← row.shape
      if other.component ≠ shape.component then .error .component
      else if other.sizes ≠ shape.sizes then .error .sizes
      else return (← countRows shape rows) + 1
end

end TensorLang
