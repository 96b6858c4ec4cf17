import TensorLang.Proofs.TransposedProducts

set_option autoImplicit false

namespace TensorLang

def BinaryOp.arithmetic? : BinaryOp → Option Arithmetic
  | .add | .sub | .elementMul | .elementDiv => some .elementwise
  | .mul => some .product
  | .div => some .quotient
  | .or | .and | .xor | .power => none

namespace TensorType

section

variable {σ : Type} {left right : TensorType σ}

theorem wider_choice (left right : TensorType σ) :
    left.wider right = left ∨ left.wider right = right := by
  by_cases flat : left.isScalar = true
  · exact .inr (if_pos flat)
  · exact .inl (if_neg flat)

theorem wider_of_right (flat : right.isScalar = true) (proper : left.isScalar = false) :
    left.wider right = left ∧ right.wider left = left := by
  rw [wider, wider, if_pos flat, if_neg (ne_true_of_eq_false proper)]
  exact ⟨rfl, rfl⟩

theorem quotient_scalar (scalars : left.isScalar = true ∨ right.isScalar = true)
    (components : left.component = right.component) :
    left.quotient right = .ok (left.wider right) := by
  have some_flat : ¬(!left.isScalar && !right.isScalar) = true := by
    rcases scalars with flat | flat <;> simp [flat]
  rw [quotient, if_neg fun differ => differ components, if_neg some_flat]

theorem quotient_apart (components : left.component ≠ right.component) :
    left.quotient right = .error .components :=
  if_pos components

end

section

variable {σ : Type} [BEq σ] {left right : TensorType σ}

theorem elementwise_scalar (scalars : left.isScalar = true ∨ right.isScalar = true)
    (components : left.component = right.component) :
    left.elementwise? right = some (left.wider right) := by
  have flat : (left.isScalar || right.isScalar) = true := Bool.or_eq_true_iff.mpr scalars
  have compatible : (left.component == right.component) = true := beq_iff_eq.mpr components
  simp only [elementwise?, flat, compatible, if_true]

theorem elementwise_proper (leftProper : left.isScalar = false)
    (rightProper : right.isScalar = false) :
    left.elementwise? right = if left == right then some left else none := by
  simp only [elementwise?, leftProper, rightProper, wider, Bool.or_false, Bool.false_eq_true,
    if_false]

theorem elementwise_apart (components : left.component ≠ right.component) :
    left.elementwise? right = none := by
  have differ : (left.component == right.component) = false := beq_false_of_ne components
  have apart : (left == right) = false :=
    Bool.eq_false_iff.mpr fun same => components (beq_parts.mp same).1
  simp only [elementwise?, differ, apart, ite_self, Bool.false_eq_true, if_false]

-- Both orders compare the same types, and the wider of two types is the same from either side.
theorem elementwise_turned [ReflBEq σ] [PartialEquivBEq σ] {allowed : σ → Prop}
    (leftRegular : left.Regular allowed) (rightRegular : right.Regular allowed) :
    (∃ type turned, left.elementwise? right = some type ∧ right.elementwise? left = some turned ∧
        (type == turned) = true) ∨
      left.elementwise? right = none ∧ right.elementwise? left = none := by
  by_cases components : left.component = right.component
  · cases leftFlat : left.isScalar with
    | true =>
        refine .inl ⟨left.wider right, right.wider left,
          elementwise_scalar (.inl leftFlat) components,
          elementwise_scalar (.inr leftFlat) components.symm, ?_⟩
        cases rightFlat : right.isScalar with
        | true =>
            rw [eq_scalar leftRegular leftFlat, eq_scalar rightRegular rightFlat, components]
            exact ReflBEq.rfl
        | false =>
            obtain ⟨turned, straight⟩ := wider_of_right leftFlat rightFlat
            rw [straight, turned]
            exact ReflBEq.rfl
    | false =>
        cases rightFlat : right.isScalar with
        | true =>
            obtain ⟨straight, turned⟩ := wider_of_right rightFlat leftFlat
            refine .inl ⟨left.wider right, right.wider left,
              elementwise_scalar (.inr rightFlat) components,
              elementwise_scalar (.inl rightFlat) components.symm, ?_⟩
            rw [straight, turned]
            exact ReflBEq.rfl
        | false =>
            rw [elementwise_proper leftFlat rightFlat, elementwise_proper rightFlat leftFlat,
              BEq.comm (a := right)]
            cases same : left == right with
            | true => exact .inl ⟨left, right, rfl, rfl, same⟩
            | false => exact .inr ⟨rfl, rfl⟩
  · exact .inr ⟨elementwise_apart components, elementwise_apart (Ne.symm components)⟩

end

end TensorType

namespace Arithmetic

variable {left right : TensorType Var}

theorem check_numeric (leftNumeric : left.component.isNumeric = true)
    (rightNumeric : right.component.isNumeric = true) (arithmetic : Arithmetic)
    (span leftSpan rightSpan : Span) :
    arithmetic.check span ⟨leftSpan, .tensor left⟩ ⟨rightSpan, .tensor right⟩ =
      arithmetic.combine span left right := by
  simp only [Arithmetic.check, numeric_tensor, leftNumeric, rightNumeric]
  rfl

theorem combine_scalar (scalars : left.isScalar = true ∨ right.isScalar = true)
    (components : left.component = right.component) (arithmetic : Arithmetic) (span : Span) :
    arithmetic.combine span left right = pure (.tensor (left.wider right)) := by
  cases arithmetic with
  | elementwise => simp only [combine, TensorType.elementwise_scalar scalars components]
  | product =>
      rw [combine_product_promised, TensorType.product_of_scalar scalars components]
      rfl
  | quotient => simp only [combine, TensorType.quotient_scalar scalars components]

theorem combine_apart (components : left.component ≠ right.component) (arithmetic : Arithmetic)
    (span : Span) :
    ∃ cause, arithmetic.combine span left right = Logged.fail span (.mismatch cause) := by
  cases arithmetic with
  | elementwise =>
      simp only [combine, TensorType.elementwise_apart components]
      exact ⟨_, rfl⟩
  | product =>
      rw [combine_product_promised, TensorType.product_of_different components]
      exact ⟨_, rfl⟩
  | quotient =>
      simp only [combine, TensorType.quotient_apart components]
      exact ⟨_, rfl⟩

theorem combine_turned {allowed : Var → Prop} (leftRegular : left.Regular allowed)
    (rightRegular : right.Regular allowed) (span : Span) :
    (∃ type turned, elementwise.combine span left right = pure (.tensor type) ∧
        elementwise.combine span right left = pure (.tensor turned) ∧ (type == turned) = true) ∨
      ∃ cause turned, elementwise.combine span left right = Logged.fail span (.mismatch cause) ∧
        elementwise.combine span right left = Logged.fail span (.mismatch turned) := by
  rcases TensorType.elementwise_turned leftRegular rightRegular with
    ⟨type, turned, found, foundTurned, same⟩ | ⟨missing, missingTurned⟩
  · refine .inl ⟨type, turned, ?_, ?_, same⟩
    · simp only [combine, found]
    · simp only [combine, foundTurned]
  · refine .inr ⟨.elementwise left right, .elementwise right left, ?_, ?_⟩
    · simp only [combine, missing]
    · simp only [combine, missingTurned]

end Arithmetic

theorem BinaryOp.check_numeric {left right : TensorType Var}
    (leftNumeric : left.component.isNumeric = true)
    (rightNumeric : right.component.isNumeric = true) {operator : BinaryOp}
    {arithmetic : Arithmetic} (computes : operator.arithmetic? = some arithmetic)
    (span leftSpan rightSpan : Span) :
    operator.check span ⟨leftSpan, .tensor left⟩ ⟨rightSpan, .tensor right⟩ =
      arithmetic.combine span left right := by
  rw [← Arithmetic.check_numeric leftNumeric rightNumeric arithmetic span leftSpan rightSpan]
  cases operator <;> cases computes <;> rfl

/--
Where an operand is a scalar, the operators of arithmetic all do the same. Equal components give the
type of the operand that is no scalar, if there is one, and unequal components are reported. An
element-wise operator takes two tensors in one order if it takes them in the other, and gives the
same type.
-/
theorem scalar_operands_alike {allowed : Var → Prop} {left right : TensorType Var}
    (leftRegular : left.Regular allowed) (rightRegular : right.Regular allowed)
    (leftNumeric : left.component.isNumeric = true)
    (rightNumeric : right.component.isNumeric = true) (span leftSpan rightSpan : Span) :
    (left.isScalar = true ∨ right.isScalar = true →
      ∃ type, (type = left ∨ type = right) ∧ (left.isScalar = false → type = left) ∧
        (right.isScalar = false → type = right) ∧
        ∀ operator : BinaryOp, operator.arithmetic?.isSome →
          let run := operator.check span ⟨leftSpan, .tensor left⟩ ⟨rightSpan, .tensor right⟩
          (left.component = right.component → run = pure (.tensor type)) ∧
            (left.component ≠ right.component →
              ∃ cause, run = Logged.fail span (.mismatch cause))) ∧
      ∀ operator : BinaryOp, operator.arithmetic? = some .elementwise →
        let straight := operator.check span ⟨leftSpan, .tensor left⟩ ⟨rightSpan, .tensor right⟩
        let turned := operator.check span ⟨rightSpan, .tensor right⟩ ⟨leftSpan, .tensor left⟩
        (∃ type typeTurned, straight = pure (.tensor type) ∧ turned = pure (.tensor typeTurned) ∧
            (type == typeTurned) = true) ∨
          ∃ cause causeTurned, straight = Logged.fail span (.mismatch cause) ∧
            turned = Logged.fail span (.mismatch causeTurned) := by
  constructor
  · intro scalars
    refine ⟨left.wider right, TensorType.wider_choice left right, ?_, ?_, ?_⟩
    · intro proper
      have flat := scalars.resolve_left (ne_true_of_eq_false proper)
      exact (TensorType.wider_of_right flat proper).1
    · intro proper
      have flat := scalars.resolve_right (ne_true_of_eq_false proper)
      exact (TensorType.wider_of_right flat proper).2
    · intro operator computes run
      obtain ⟨arithmetic, known⟩ := Option.isSome_iff_exists.mp computes
      have combined : run = arithmetic.combine span left right :=
        BinaryOp.check_numeric leftNumeric rightNumeric known span leftSpan rightSpan
      rw [combined]
      exact ⟨fun same => Arithmetic.combine_scalar scalars same arithmetic span,
        fun differ => Arithmetic.combine_apart differ arithmetic span⟩
  · intro operator computes straight turned
    have combined : straight = Arithmetic.elementwise.combine span left right :=
      BinaryOp.check_numeric leftNumeric rightNumeric computes span leftSpan rightSpan
    have combinedTurned : turned = Arithmetic.elementwise.combine span right left :=
      BinaryOp.check_numeric rightNumeric leftNumeric computes span rightSpan leftSpan
    rw [combined, combinedTurned]
    exact Arithmetic.combine_turned leftRegular rightRegular span

theorem scalar_times_blocked_column :
    let column : TensorType Var := ⟨.float, [[.dynamic, .range 2]], true⟩
    let scalar : TensorType Var := .scalar .float
    (column.Regular fun _ => True) ∧ (scalar.Regular fun _ => True) ∧
      scalar.component.isNumeric = true ∧ column.component.isNumeric = true ∧
      scalar.isScalar = true ∧
      BinaryOp.div.check .origin ⟨.origin, .tensor scalar⟩ ⟨.origin, .tensor column⟩ =
        pure (.tensor column) ∧
      BinaryOp.add.check .origin ⟨.origin, .tensor scalar⟩ ⟨.origin, .tensor column⟩ =
        pure (.tensor column) := by
  intro column scalar
  have columnRegular : column.Regular fun _ => True :=
    TensorType.regular_of_axes .float _ true 2 (by decide) (by decide) (by simp) (by simp)
  have scalarRegular : scalar.Regular fun _ => True := TensorType.scalar_regular .float
  have flat : scalar.isScalar = true := rfl
  obtain ⟨scalars, _⟩ :=
    scalar_operands_alike scalarRegular columnRegular rfl rfl .origin .origin .origin
  obtain ⟨type, -, -, proper, alike⟩ := scalars (.inl flat)
  obtain rfl := proper rfl
  exact ⟨columnRegular, scalarRegular, rfl, rfl, flat, (alike .div rfl).1 rfl,
    (alike .add rfl).1 rfl⟩

end TensorLang
