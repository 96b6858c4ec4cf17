import TensorLang.Ty.Basic

set_option autoImplicit false

namespace TensorLang

instance : ReflBEq Var where
  rfl {var} := beq_self_eq_true var.id

instance : ReflBEq Element where
  rfl {record} := beq_self_eq_true record.name

instance {σ : Type} [BEq σ] [ReflBEq σ] : ReflBEq (IndexSet σ) where
  rfl {sets} := by
    change sets.same sets = true
    cases sets with
    | range size => exact beq_self_eq_true size
    | set member => exact ReflBEq.rfl
    | dynamic => rfl

theorem TensorType.beq_parts {σ : Type} [BEq σ] {left right : TensorType σ} :
    (left == right) = true ↔
      left.component = right.component ∧ (left.axes == right.axes) = true ∧
        left.column = right.column := by
  change (left.component == right.component && left.axes == right.axes &&
    left.column == right.column) = true ↔ _
  rw [Bool.and_eq_true, Bool.and_eq_true, beq_iff_eq (a := left.component),
    beq_iff_eq (a := left.column), and_assoc]

instance {σ : Type} [BEq σ] [ReflBEq σ] : ReflBEq (TensorType σ) where
  rfl {tensor} := by
    change (tensor.component == tensor.component && tensor.axes == tensor.axes &&
      tensor.column == tensor.column) = true
    rw [beq_self_eq_true tensor.component, beq_self_eq_true tensor.axes,
      beq_self_eq_true tensor.column]
    rfl

theorem Ty.same_refl (type : Ty) : type.same type = true := by
  match type with
  | .tensor shape => exact beq_self_eq_true shape
  | .element record => exact beq_self_eq_true record
  | .set member endpoints =>
      rw [Ty.same, Ty.same_refl member, beq_self_eq_true endpoints]
      rfl
  | .tuple member length =>
      rw [Ty.same, Ty.same_refl member, beq_self_eq_true length]
      rfl

instance : ReflBEq Ty where
  rfl {type} := type.same_refl

instance : PartialEquivBEq Var where
  symm {left right} same := by
    change (left.id == right.id) = true at same
    change (right.id == left.id) = true
    rw [BEq.comm, same]
  trans {first second third} same alike := by
    change (first.id == second.id) = true at same
    change (first.id == third.id) = true
    rw [eq_of_beq same]
    exact alike

instance {σ : Type} [BEq σ] [PartialEquivBEq σ] : PartialEquivBEq (IndexSet σ) where
  symm {left right} same := by
    change left.same right = true at same
    change right.same left = true
    cases left <;> cases right <;>
      first | exact PartialEquivBEq.symm same | exact same
  trans {first second third} same alike := by
    change first.same second = true at same
    change second.same third = true at alike
    change first.same third = true
    cases first <;> cases second <;> cases third <;>
      first
        | exact PartialEquivBEq.trans same alike
        | exact absurd same Bool.false_ne_true
        | exact absurd alike Bool.false_ne_true
        | rfl

instance list_partialEquivBEq {α : Type} [BEq α] [PartialEquivBEq α] : PartialEquivBEq (List α) where
  symm {left right} same := by
    induction left generalizing right with
    | nil => cases right <;> exact same
    | cons item rest ih =>
        cases right with
        | nil => exact same
        | cons other others =>
            rw [List.cons_beq_cons, Bool.and_eq_true] at same ⊢
            exact ⟨PartialEquivBEq.symm same.1, ih same.2⟩
  trans {first second third} same alike := by
    induction second generalizing first third with
    | nil =>
        cases first with
        | nil => exact alike
        | cons item rest => exact nomatch same
    | cons item rest ih =>
        cases first with
        | nil => exact nomatch same
        | cons before earlier =>
            cases third with
            | nil => exact nomatch alike
            | cons next later =>
                rw [List.cons_beq_cons, Bool.and_eq_true] at same alike ⊢
                exact ⟨PartialEquivBEq.trans same.1 alike.1, ih same.2 alike.2⟩

instance {σ : Type} [BEq σ] [PartialEquivBEq σ] : PartialEquivBEq (TensorType σ) where
  symm {left right} same := by
    obtain ⟨component, axes, column⟩ := TensorType.beq_parts.mp same
    exact TensorType.beq_parts.mpr ⟨component.symm, PartialEquivBEq.symm axes, column.symm⟩
  trans {first second third} same alike := by
    obtain ⟨component, axes, column⟩ := TensorType.beq_parts.mp same
    obtain ⟨componentAlike, axesAlike, columnAlike⟩ := TensorType.beq_parts.mp alike
    exact TensorType.beq_parts.mpr ⟨component.trans componentAlike,
      PartialEquivBEq.trans axes axesAlike, column.trans columnAlike⟩

instance : PartialEquivBEq Element where
  symm {left right} same := by
    change (left.name == right.name) = true at same
    change (right.name == left.name) = true
    rw [BEq.comm, same]
  trans {first second third} same alike := by
    change (first.name == second.name) = true at same
    change (second.name == third.name) = true at alike
    change (first.name == third.name) = true
    rw [eq_of_beq same]
    exact alike

theorem Ty.same_symm {left right : Ty} (same : left.same right = true) :
    right.same left = true := by
  match left, right with
  | .tensor shape, .tensor other => exact PartialEquivBEq.symm (α := TensorType Var) same
  | .element record, .element other => exact PartialEquivBEq.symm (α := Element) same
  | .set member endpoints, .set other ends =>
      rw [Ty.same, Bool.and_eq_true] at same ⊢
      exact ⟨Ty.same_symm same.1, PartialEquivBEq.symm same.2⟩
  | .tuple member length, .tuple other count =>
      rw [Ty.same, Bool.and_eq_true] at same ⊢
      exact ⟨Ty.same_symm same.1, PartialEquivBEq.symm same.2⟩

theorem Ty.same_trans {first second third : Ty} (same : first.same second = true)
    (alike : second.same third = true) : first.same third = true := by
  match first, second, third with
  | .tensor _, .tensor _, .tensor _ => exact PartialEquivBEq.trans (α := TensorType Var) same alike
  | .element _, .element _, .element _ => exact PartialEquivBEq.trans (α := Element) same alike
  | .set .., .set .., .set .. =>
      rw [Ty.same, Bool.and_eq_true] at same alike ⊢
      exact ⟨Ty.same_trans same.1 alike.1, PartialEquivBEq.trans same.2 alike.2⟩
  | .tuple .., .tuple .., .tuple .. =>
      rw [Ty.same, Bool.and_eq_true] at same alike ⊢
      exact ⟨Ty.same_trans same.1 alike.1, PartialEquivBEq.trans same.2 alike.2⟩

instance : PartialEquivBEq Ty where
  symm := Ty.same_symm
  trans := Ty.same_trans

end TensorLang
