import TensorLang.Tensor.Arithmetic

set_option autoImplicit false

namespace TensorLang

variable {σ : Type}

namespace TensorType

def productByAxes [BEq σ] (left right : TensorType σ) : Product σ :=
  match left.axes, right.axes with
  | [], _ => .typed right
  | _, [] => .typed left
  | [leftAxis], [rightAxis] =>
      if left.column && right.column then .faulty .twoColumns
      else if !left.column && !right.column then .faulty .twoRows
      else if leftAxis != rightAxis then .faulty .vectors
      else if left.column then .typed ⟨left.component, [leftAxis, rightAxis], false⟩
      else .typed (scalar left.component)
  | [rows, inner], [rightAxis] =>
      if inner != rightAxis then .faulty .matrixVector
      else
        ⟨some ⟨left.component, [rows], true⟩, if right.column then none else some .matrixRow⟩
  | [leftAxis], [inner, columns] =>
      if leftAxis != inner then .faulty .vectorMatrix
      else
        ⟨some ⟨left.component, [columns], false⟩, if left.column then some .columnMatrix else none⟩
  | [rows, leftInner], [rightInner, columns] =>
      if leftInner != rightInner then .faulty .matrices
      else .typed ⟨left.component, [rows, columns], false⟩
  | _, _ => .faulty .order

def productOf [BEq σ] (left right : TensorType σ) : Product σ :=
  if left.component ≠ right.component then .faulty .components else left.productByAxes right

theorem product_of_same [BEq σ] {left right : TensorType σ}
    (components : left.component = right.component) :
    left.productOf right = left.productByAxes right :=
  if_neg fun differ => differ components

theorem product_of_different [BEq σ] {left right : TensorType σ}
    (components : left.component ≠ right.component) :
    left.productOf right = .faulty .components :=
  if_pos components

theorem product_of_scalar [BEq σ] {left right : TensorType σ}
    (scalars : left.isScalar = true ∨ right.isScalar = true)
    (components : left.component = right.component) :
    left.productOf right = .typed (left.wider right) := by
  rw [product_of_same components]
  obtain ⟨component, leftAxes, leftColumn⟩ := left
  obtain ⟨_, rightAxes, rightColumn⟩ := right
  match leftAxes, rightAxes with
  | [], _ => rfl
  | [_], [] | [_, _], [] | _ :: _ :: _ :: _, [] => rfl
  | _ :: _, _ :: _ => exact absurd scalars (by simp [isScalar])

-- The orders decide the case, and with it which axes there are to take.
theorem product_of_axes_promised [BEq σ] (left right : TensorType σ) :
    left.productOfAxes right = .ok (left.productByAxes right) := by
  obtain ⟨leftComponent, leftAxes, leftColumn⟩ := left
  obtain ⟨rightComponent, rightAxes, rightColumn⟩ := right
  match leftAxes, rightAxes with
  | [], _ => rfl
  | [_], [] | [_, _], [] | _ :: _ :: _ :: _, [] => rfl
  | [leftAxis], [rightAxis] =>
      change (if leftColumn && rightColumn then Except.ok (.faulty .twoColumns)
        else if !leftColumn && !rightColumn then Except.ok (.faulty .twoRows)
        else if leftAxis != rightAxis then Except.ok (.faulty .vectors)
        else if leftColumn then
          Except.ok (.typed ⟨leftComponent, [leftAxis, rightAxis], false⟩)
        else Except.ok (.typed (scalar leftComponent)) : Except MissingAxis (Product σ)) = _
      simp only [productByAxes, apply_ite Except.ok]
  | [rows, inner], [rightAxis] =>
      change (if inner != rightAxis then Except.ok (.faulty .matrixVector)
        else Except.ok ⟨some ⟨leftComponent, [rows], true⟩,
          if rightColumn then none else some .matrixRow⟩ : Except MissingAxis (Product σ)) = _
      simp only [productByAxes, apply_ite Except.ok]
  | [leftAxis], [inner, columns] =>
      change (if leftAxis != inner then Except.ok (.faulty .vectorMatrix)
        else Except.ok ⟨some ⟨leftComponent, [columns], false⟩,
          if leftColumn then some .columnMatrix else none⟩ : Except MissingAxis (Product σ)) = _
      simp only [productByAxes, apply_ite Except.ok]
  | [rows, leftInner], [rightInner, columns] =>
      change (if leftInner != rightInner then Except.ok (.faulty .matrices)
        else Except.ok (.typed ⟨leftComponent, [rows, columns], false⟩) :
          Except MissingAxis (Product σ)) = _
      simp only [productByAxes, apply_ite Except.ok]
  | _ :: _ :: _ :: _, [_] => rfl
  | _ :: _ :: _ :: _, [_, _] => rfl
  | _ :: _ :: _ :: _, _ :: _ :: _ :: _ => rfl
  | [_], _ :: _ :: _ :: _ => rfl
  | [_, _], _ :: _ :: _ :: _ => rfl

theorem product_promised [BEq σ] (left right : TensorType σ) :
    left.product right = .ok (left.productOf right) := by
  simp only [product]
  by_cases components : left.component = right.component
  · rw [if_neg fun differ => differ components, product_of_same components]
    exact product_of_axes_promised left right
  · rw [if_pos components, product_of_different components]
    rfl

theorem transpose_promised (tensor : TensorType σ) :
    tensor.transpose = .ok tensor.transposed? := by
  obtain ⟨component, axes, column⟩ := tensor
  match axes with
  | [] | [_] | [_, _] | _ :: _ :: _ :: _ => rfl

theorem transposed_by_axes (tensor : TensorType σ) :
    tensor.transposed? =
      match tensor.axes with
      | [] => some tensor
      | [_] => some { tensor with column := !tensor.column }
      | [rows, columns] => some ⟨tensor.component, [columns, rows], false⟩
      | _ => none := by
  obtain ⟨component, axes, column⟩ := tensor
  match axes with
  | [] | [_] | [_, _] | _ :: _ :: _ :: _ => rfl

end TensorType

end TensorLang
