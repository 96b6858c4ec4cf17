import TensorLang.Proofs.RulesGive
import TensorLang.Proofs.Sameness

set_option autoImplicit false

namespace TensorLang

variable {σ : Type}

-- The fault that the transposes have when they are multiplied in reverse order.
def ProductFault.mirrored : ProductFault → ProductFault
  | .twoColumns => .twoRows
  | .twoRows => .twoColumns
  | .matrixVector => .vectorMatrix
  | .vectorMatrix => .matrixVector
  | .matrixRow => .columnMatrix
  | .columnMatrix => .matrixRow
  | fault => fault

def Product.transposed (product : Product σ) : Product σ :=
  ⟨product.type?.bind TensorType.transposed?, product.fault?.map ProductFault.mirrored⟩

namespace TensorType

variable {allowed : σ → Prop}

theorem transposed_exists {tensor : TensorType σ} (small : tensor.order ≤ 2) :
    ∃ turned, tensor.transposed? = some turned := by
  obtain ⟨component, axes, column⟩ := tensor
  match axes with
  | [] | [_] | [_, _] => exact ⟨_, rfl⟩
  | _ :: _ :: _ :: _ => exact absurd small (by simp [order])

theorem transposed_component {tensor turned : TensorType σ}
    (turns : tensor.transposed? = some turned) : turned.component = tensor.component := by
  obtain ⟨component, axes, column⟩ := tensor
  match axes with
  | [] | [_] | [_, _] =>
      cases turns
      rfl
  | _ :: _ :: _ :: _ => exact nomatch turns

-- Each rule for a product has a mirror image, which compares the same two axes.
theorem product_by_axes_turned [BEq σ] [PartialEquivBEq σ]
    {left right leftTurned rightTurned : TensorType σ} (leftRegular : left.Regular allowed)
    (rightRegular : right.Regular allowed) (components : left.component = right.component)
    (leftTurns : left.transposed? = some leftTurned)
    (rightTurns : right.transposed? = some rightTurned) :
    rightTurned.productByAxes leftTurned = (left.productByAxes right).transposed := by
  obtain ⟨component, leftAxes, leftColumn⟩ := left
  obtain ⟨_, rightAxes, rightColumn⟩ := right
  obtain rfl := components
  match leftAxes, rightAxes with
  | [], [] =>
      obtain rfl := scalar_of_axes leftRegular
      obtain rfl := scalar_of_axes rightRegular
      cases leftTurns
      cases rightTurns
      rfl
  | [], [_] | [], [_, _] | [_], [] | [_, _], [] =>
      cases leftTurns
      cases rightTurns
      rfl
  | [leftAxis], [rightAxis] =>
      cases leftTurns
      cases rightTurns
      simp only [productByAxes, BEq.comm (a := rightAxis), bne]
      cases leftColumn <;> cases rightColumn <;> cases leftAxis == rightAxis <;> rfl
  | [rows, inner], [axis] =>
      cases leftTurns
      cases rightTurns
      simp only [productByAxes, BEq.comm (a := axis), bne]
      cases rightColumn <;> cases inner == axis <;> rfl
  | [axis], [inner, columns] =>
      cases leftTurns
      cases rightTurns
      simp only [productByAxes, BEq.comm (a := inner), bne]
      cases leftColumn <;> cases axis == inner <;> rfl
  | [rows, leftInner], [rightInner, columns] =>
      cases leftTurns
      cases rightTurns
      simp only [productByAxes, BEq.comm (a := rightInner), bne]
      cases leftInner == rightInner <;> rfl
  | _ :: _ :: _ :: _, _ => cases leftTurns
  | _, _ :: _ :: _ :: _ => cases rightTurns

theorem product_turned [BEq σ] [PartialEquivBEq σ]
    {left right leftTurned rightTurned : TensorType σ} (leftRegular : left.Regular allowed)
    (rightRegular : right.Regular allowed) (leftTurns : left.transposed? = some leftTurned)
    (rightTurns : right.transposed? = some rightTurned) :
    rightTurned.productOf leftTurned = (left.productOf right).transposed := by
  have leftComponent := transposed_component leftTurns
  have rightComponent := transposed_component rightTurns
  by_cases components : left.component = right.component
  · have turned : rightTurned.component = leftTurned.component := by
      rw [leftComponent, rightComponent, components]
    rw [product_of_same components, product_of_same turned]
    exact product_by_axes_turned leftRegular rightRegular components leftTurns rightTurns
  · have turned : rightTurned.component ≠ leftTurned.component := by
      rw [leftComponent, rightComponent]
      exact Ne.symm components
    rw [product_of_different components, product_of_different turned]
    rfl

theorem type_of_guarded {differ : Bool} {fault : ProductFault} {other? : Option ProductFault}
    {found type : TensorType σ}
    (typed : (if differ then .faulty fault else ⟨some found, other?⟩ : Product σ).type? =
      some type) : type = found := by
  cases differ with
  | true => cases typed
  | false => exact (Option.some.inj typed).symm

theorem product_order [BEq σ] {left right type : TensorType σ} (leftSmall : left.order ≤ 2)
    (rightSmall : right.order ≤ 2) (typed : (left.productOf right).type? = some type) :
    type.order ≤ 2 := by
  by_cases components : left.component = right.component
  · rw [product_of_same components] at typed
    obtain ⟨component, leftAxes, leftColumn⟩ := left
    obtain ⟨_, rightAxes, rightColumn⟩ := right
    match leftAxes, rightAxes with
    | [], _ => exact Option.some.inj typed ▸ rightSmall
    | [_], [] | [_, _], [] => exact Option.some.inj typed ▸ leftSmall
    | [_], [_] =>
        cases leftColumn with
        | true =>
            cases rightColumn with
            | true => cases typed
            | false => exact type_of_guarded typed ▸ Nat.le_refl 2
        | false =>
            cases rightColumn with
            | true => exact type_of_guarded typed ▸ Nat.zero_le 2
            | false => cases typed
    | [_, _], [_] | [_], [_, _] => exact type_of_guarded typed ▸ Nat.le_succ 1
    | [_, _], [_, _] => exact type_of_guarded typed ▸ Nat.le_refl 2
    | _ :: _ :: _ :: _, _ => exact absurd leftSmall (by simp [order])
    | _, _ :: _ :: _ :: _ => exact absurd rightSmall (by simp [order])
  · rw [product_of_different components] at typed
    cases typed

end TensorType

theorem numeric_tensor (side : Side) (arithmetic : Arithmetic) (span : Span)
    (shape : TensorType Var) :
    Operand.numeric side arithmetic ⟨span, .tensor shape⟩ =
      if shape.component.isNumeric then pure (some shape)
      else Logged.fail span (.mismatch (.numericOperand side arithmetic [.tensor shape])) := by
  have tensor : numericTensor? [.tensor shape] =
      if shape.component.isNumeric then some shape else none := rfl
  simp only [Operand.numeric, Operand.expect, Outcome.tensor, Outcome.one, Option.bind_some, tensor]
  cases shape.component.isNumeric <;> rfl

-- The type that `*` gives to two tensors: arithmetic has to be defined on their components.
def TensorType.times? (left right : TensorType Var) : Option (TensorType Var) :=
  if left.component.isNumeric && right.component.isNumeric then (left.productOf right).type?
  else none

-- Components without arithmetic are a fault of the operand that has them.
def TensorType.timesFaults (left right : TensorType Var) : Nat :=
  (!left.component.isNumeric).toNat + (!right.component.isNumeric).toNat +
    if left.component.isNumeric && right.component.isNumeric then
      (left.productOf right).fault?.toList.length
    else 0

theorem mul_tensors (span leftSpan rightSpan : Span) (left right : TensorType Var) :
    let check := BinaryOp.mul.check span ⟨leftSpan, .tensor left⟩ ⟨rightSpan, .tensor right⟩
    check.value = .ofTensor? (left.times? right) ∧
      check.log.errors.length = left.timesFaults right := by
  simp only [BinaryOp.check, Arithmetic.check, numeric_tensor, TensorType.times?,
    TensorType.timesFaults]
  cases left.component.isNumeric with
  | false => cases right.component.isNumeric <;> exact ⟨rfl, rfl⟩
  | true =>
      cases right.component.isNumeric with
      | false => exact ⟨rfl, rfl⟩
      | true => simp [combine_product_promised]

namespace TensorType

variable {allowed : Var → Prop} {left right leftTurned rightTurned : TensorType Var}

theorem times_turned (leftRegular : left.Regular allowed) (rightRegular : right.Regular allowed)
    (leftTurns : left.transposed? = some leftTurned)
    (rightTurns : right.transposed? = some rightTurned) :
    rightTurned.times? leftTurned = (left.times? right).bind transposed? ∧
      rightTurned.timesFaults leftTurned = left.timesFaults right := by
  have mirrored := product_turned leftRegular rightRegular leftTurns rightTurns
  simp only [times?, timesFaults, mirrored, transposed_component leftTurns,
    transposed_component rightTurns, Product.transposed]
  cases left.component.isNumeric <;> cases right.component.isNumeric <;>
    cases (left.productOf right).fault? <;> exact ⟨rfl, rfl⟩

theorem times_order {type : TensorType Var} (leftSmall : left.order ≤ 2)
    (rightSmall : right.order ≤ 2) (typed : left.times? right = some type) : type.order ≤ 2 := by
  rw [times?, Option.ite_none_right_eq_some] at typed
  exact product_order leftSmall rightSmall typed.2

end TensorType

/--
Transposition turns a product around. The product of the transposes in reverse order has a type
where the product has one, namely its transpose, and as many faults.
-/
theorem transposition_reverses_products {allowed : Var → Prop} {left right : TensorType Var}
    (leftRegular : left.Regular allowed) (rightRegular : right.Regular allowed)
    (leftSmall : left.order ≤ 2) (rightSmall : right.order ≤ 2) :
    ∃ leftTurned rightTurned, left.transpose = .ok (some leftTurned) ∧
      right.transpose = .ok (some rightTurned) ∧
      ∀ span leftSpan rightSpan turnedSpan leftTurnedSpan rightTurnedSpan,
        let straight :=
          BinaryOp.mul.check span ⟨leftSpan, .tensor left⟩ ⟨rightSpan, .tensor right⟩
        let turned :=
          BinaryOp.mul.check turnedSpan ⟨rightTurnedSpan, .tensor rightTurned⟩
            ⟨leftTurnedSpan, .tensor leftTurned⟩
        turned.value.isSome = straight.value.isSome ∧
          (∀ type, straight.value = .tensor type → ∃ typeTurned,
            type.transpose = .ok (some typeTurned) ∧ turned.value = .tensor typeTurned) ∧
          turned.log.errors.length = straight.log.errors.length := by
  obtain ⟨leftTurned, leftTurns⟩ := TensorType.transposed_exists leftSmall
  obtain ⟨rightTurned, rightTurns⟩ := TensorType.transposed_exists rightSmall
  refine ⟨leftTurned, rightTurned, by rw [left.transpose_promised, leftTurns],
    by rw [right.transpose_promised, rightTurns], ?_⟩
  intro span leftSpan rightSpan turnedSpan leftTurnedSpan rightTurnedSpan straight turned
  obtain ⟨straightValue, straightErrors⟩ := mul_tensors span leftSpan rightSpan left right
  obtain ⟨turnedValue, turnedErrors⟩ :=
    mul_tensors turnedSpan rightTurnedSpan leftTurnedSpan rightTurned leftTurned
  obtain ⟨types, faults⟩ :=
    TensorType.times_turned leftRegular rightRegular leftTurns rightTurns
  change turned.value = _ at turnedValue
  change straight.value = _ at straightValue
  have same := turnedErrors.trans (faults.trans straightErrors.symm)
  cases typed : left.times? right with
  | none =>
      rw [types, typed] at turnedValue
      rw [typed] at straightValue
      refine ⟨by rw [turnedValue, straightValue]; rfl, fun type known => ?_, same⟩
      exact nomatch straightValue.symm.trans known
  | some product =>
      obtain ⟨productTurned, turns⟩ :=
        TensorType.transposed_exists (TensorType.times_order leftSmall rightSmall typed)
      rw [types, typed, Option.bind_some, turns] at turnedValue
      rw [typed] at straightValue
      refine ⟨by rw [turnedValue, straightValue]; rfl, fun type known => ?_, same⟩
      have single : some [Ty.tensor product] = some [.tensor type] := straightValue.symm.trans known
      cases single
      exact ⟨productTurned, by rw [product.transpose_promised, turns], turnedValue⟩

-- A row that follows a matrix is reported, and the product has a type all the same.
theorem matrix_row_turned :
    let blocked (outer inner : Nat) : Axis Var := [.range outer, .range inner]
    let matrix : TensorType Var := ⟨.float, [[.dynamic, .range 2], blocked 4 3], false⟩
    let row : TensorType Var := ⟨.float, [blocked 4 3], false⟩
    let rowTurned : TensorType Var := ⟨.float, [blocked 4 3], true⟩
    let matrixTurned : TensorType Var := ⟨.float, [blocked 4 3, [.dynamic, .range 2]], false⟩
    let straight := BinaryOp.mul.check .origin ⟨.origin, .tensor matrix⟩ ⟨.origin, .tensor row⟩
    let turned :=
      BinaryOp.mul.check .origin ⟨.origin, .tensor rowTurned⟩ ⟨.origin, .tensor matrixTurned⟩
    (matrix.Regular fun _ => True) ∧ (row.Regular fun _ => True) ∧ matrix.order ≤ 2 ∧
      row.order ≤ 2 ∧ straight.value = .tensor ⟨.float, [[.dynamic, .range 2]], true⟩ ∧
      turned.value = .tensor ⟨.float, [[.dynamic, .range 2]], false⟩ ∧
      straight.log.errors.length = 1 ∧ turned.log.errors.length = 1 := by
  intro blocked matrix row rowTurned matrixTurned straight turned
  have matrixRegular : matrix.Regular fun _ => True :=
    TensorType.regular_of_axes .float _ false 2 (by decide) (by decide) (by simp [blocked]) (by simp)
  have rowRegular : row.Regular fun _ => True :=
    TensorType.regular_of_axes .float _ false 2 (by decide) (by decide) (by simp [blocked]) (by simp)
  have matrixSmall : matrix.order ≤ 2 := by decide
  have rowSmall : row.order ≤ 2 := by decide
  obtain ⟨_, _, matrixTurns, rowTurns, laws⟩ :=
    transposition_reverses_products matrixRegular rowRegular matrixSmall rowSmall
  cases matrixTurns
  cases rowTurns
  obtain ⟨_, typed, counted⟩ := laws .origin .origin .origin .origin .origin .origin
  have value : straight.value = .tensor ⟨.float, [[.dynamic, .range 2]], true⟩ := rfl
  have one : straight.log.errors.length = 1 := rfl
  obtain ⟨_, turns, found⟩ := typed _ value
  cases turns
  exact ⟨matrixRegular, rowRegular, matrixSmall, rowSmall, value, found, one, counted.trans one⟩

end TensorLang
