import TensorLang.Tensor.Basic

set_option autoImplicit false

namespace TensorLang

variable {σ : Type}

inductive ProductFault where
  | components
  | twoColumns
  | twoRows
  | vectors
  | matrixVector
  | matrixRow
  | vectorMatrix
  | columnMatrix
  | matrices
  | order
deriving DecidableEq, Repr

inductive QuotientFault where
  | components
  | tensors
deriving DecidableEq, Repr

-- The outcome of a product: a vector in the wrong orientation is a fault that keeps its type.
structure Product (σ : Type) where
  type? : Option (TensorType σ)
  fault? : Option ProductFault

namespace Product

def typed (type : TensorType σ) : Product σ := ⟨some type, none⟩

def faulty (fault : ProductFault) : Product σ := ⟨none, some fault⟩

end Product

namespace TensorType

def wider (left right : TensorType σ) : TensorType σ := if left.isScalar then right else left

def elementwise? [BEq σ] (left right : TensorType σ) : Option (TensorType σ) :=
  let compatible :=
    if left.isScalar || right.isScalar then left.component == right.component else left == right
  if compatible then some (left.wider right) else none

def productOfAxes [BEq σ] (left right : TensorType σ) : Except MissingAxis (Product σ) :=
  match left.order, right.order with
  | 0, _ => return .typed right
  | _, 0 => return .typed left
  | 1, 1 =>
      if left.column && right.column then return .faulty .twoColumns
      else if !left.column && !right.column then return .faulty .twoRows
      else do
        let leftAxis ← left.axis 0
        let rightAxis ← right.axis 0
        if leftAxis != rightAxis then return .faulty .vectors
        else if left.column then return .typed ⟨left.component, [leftAxis, rightAxis], false⟩
        else return .typed (scalar left.component)
  | 2, 1 => do
      let inner ← left.axis 1
      let rightAxis ← right.axis 0
      if inner != rightAxis then return .faulty .matrixVector
      else
        let rows ← left.axis 0
        return ⟨some ⟨left.component, [rows], true⟩,
          if right.column then none else some .matrixRow⟩
  | 1, 2 => do
      let leftAxis ← left.axis 0
      let inner ← right.axis 0
      if leftAxis != inner then return .faulty .vectorMatrix
      else
        let columns ← right.axis 1
        return ⟨some ⟨left.component, [columns], false⟩,
          if left.column then some .columnMatrix else none⟩
  | 2, 2 => do
      let leftInner ← left.axis 1
      let rightInner ← right.axis 0
      if leftInner != rightInner then return .faulty .matrices
      else
        let rows ← left.axis 0
        let columns ← right.axis 1
        return .typed ⟨left.component, [rows, columns], false⟩
  | _, _ => return .faulty .order

def product [BEq σ] (left right : TensorType σ) : Except MissingAxis (Product σ) :=
  if left.component ≠ right.component then return .faulty .components
  else left.productOfAxes right

def quotient (left right : TensorType σ) : Except QuotientFault (TensorType σ) :=
  if left.component ≠ right.component then .error .components
  else if !left.isScalar && !right.isScalar then .error .tensors
  else .ok (left.wider right)

end TensorType

end TensorLang
