import TensorLang.Proofs.TransposedProducts

set_option autoImplicit false

namespace TensorLang

variable {σ : Type}

namespace TensorType

variable {allowed : σ → Prop}

-- The axis that a product compares with the axis of a factor on the left, if there is one.
def leftEnd (tensor : TensorType σ) : Option (Axis σ) :=
  match tensor.axes with
  | [axis] => if tensor.column then some axis else none
  | [rows, _] => some rows
  | _ => none

def rightEnd (tensor : TensorType σ) : Option (Axis σ) :=
  match tensor.axes with
  | [axis] => if tensor.column then none else some axis
  | [_, columns] => some columns
  | _ => none

def ofEnds (component : Scalar) : Option (Axis σ) → Option (Axis σ) → TensorType σ
  | none, none => scalar component
  | some rows, none => ⟨component, [rows], true⟩
  | none, some columns => ⟨component, [columns], false⟩
  | some rows, some columns => ⟨component, [rows, columns], false⟩

section

variable (component : Scalar) (left right : Option (Axis σ))

@[simp] theorem leftEnd_ofEnds : (ofEnds component left right).leftEnd = left := by
  cases left <;> cases right <;> rfl

@[simp] theorem rightEnd_ofEnds : (ofEnds component left right).rightEnd = right := by
  cases left <;> cases right <;> rfl

@[simp] theorem component_ofEnds : (ofEnds component left right).component = component := by
  cases left <;> cases right <;> rfl

theorem isScalar_ofEnds :
    (ofEnds component left right).isScalar = (left.isNone && right.isNone) := by
  cases left <;> cases right <;> rfl

end

theorem ofEnds_ends {tensor : TensorType σ} (regular : tensor.Regular allowed)
    (small : tensor.order ≤ 2) :
    ofEnds tensor.component tensor.leftEnd tensor.rightEnd = tensor := by
  have single := regular.column
  obtain ⟨component, axes, column⟩ := tensor
  match axes with
  | [] => exact (eq_scalar regular rfl).symm
  | [_] => cases column <;> rfl
  | [_, _] =>
      cases column with
      | false => rfl
      | true => exact nomatch single rfl
  | _ :: _ :: _ :: _ => exact absurd small (by simp [order])

theorem product_unique [BEq σ] {left right type other : TensorType σ}
    (product : left.productOf right = .typed type) (again : left.productOf right = .typed other) :
    type = other :=
  Option.some.inj (congrArg Product.type? (product.symm.trans again))

theorem faulty_not_typed {fault : ProductFault} {type : TensorType σ} :
    (.faulty fault : Product σ) ≠ .typed type :=
  fun same => nomatch congrArg Product.type? same

theorem product_components [BEq σ] {left right type : TensorType σ}
    (product : left.productOf right = .typed type) : left.component = right.component := by
  by_contra differ
  rw [product_of_different differ] at product
  exact faulty_not_typed product

theorem scalar_product [BEq σ] {left right type : TensorType σ} (flat : left.isScalar = true)
    (product : left.productOf right = .typed type) : type = right := by
  have wide := product_of_scalar (.inl flat) (product_components product)
  rw [wider, if_pos flat] at wide
  exact product_unique product wide

theorem product_scalar [BEq σ] {left right type : TensorType σ}
    (leftRegular : left.Regular allowed) (rightRegular : right.Regular allowed)
    (flat : right.isScalar = true) (product : left.productOf right = .typed type) :
    type = left := by
  have components := product_components product
  by_cases both : left.isScalar = true
  · rw [scalar_product both product, eq_scalar leftRegular both, eq_scalar rightRegular flat,
      components]
  have wide := product_of_scalar (.inr flat) components
  rw [wider, if_neg both] at wide
  exact product_unique product wide

-- Two tensors with axes are joined where they meet, and the product keeps the ends outside.
structure Joined (left right type : TensorType σ) : Prop where
  leftSmall : left.order ≤ 2
  rightSmall : right.order ≤ 2
  components : left.component = right.component
  meet : left.rightEnd.isSome = right.leftEnd.isSome
  type : type = ofEnds left.component left.leftEnd right.rightEnd

theorem typed_of_guarded {differ : Bool} {fault : ProductFault} {found type : TensorType σ}
    (product : (if differ then .faulty fault else .typed found : Product σ) = .typed type) :
    type = found :=
  type_of_guarded (congrArg Product.type? product)

theorem not_typed_of_fault {differ : Bool} {fault other : ProductFault}
    {type? : Option (TensorType σ)} {type : TensorType σ} :
    (if differ then .faulty fault else ⟨type?, some other⟩ : Product σ) ≠ .typed type := by
  cases differ <;> exact fun same => nomatch congrArg Product.fault? same

theorem product_joined [BEq σ] {left right type : TensorType σ} (leftProper : left.isScalar = false)
    (rightProper : right.isScalar = false) (product : left.productOf right = .typed type) :
    Joined left right type := by
  have components := product_components product
  rw [product_of_same components] at product
  have vector : 1 ≤ 2 := Nat.le_succ 1
  have matrix : 2 ≤ 2 := Nat.le_refl 2
  obtain ⟨component, leftAxes, leftColumn⟩ := left
  obtain ⟨_, rightAxes, rightColumn⟩ := right
  match leftAxes, rightAxes with
  | [], _ => exact nomatch leftProper
  | _, [] => exact nomatch rightProper
  | [_], [_] =>
      cases leftColumn with
      | true =>
          cases rightColumn with
          | true => exact absurd product faulty_not_typed
          | false => exact ⟨vector, vector, components, rfl, typed_of_guarded product⟩
      | false =>
          cases rightColumn with
          | true => exact ⟨vector, vector, components, rfl, typed_of_guarded product⟩
          | false => exact absurd product faulty_not_typed
  | [_, _], [_] =>
      cases rightColumn with
      | true => exact ⟨matrix, vector, components, rfl, typed_of_guarded product⟩
      | false => exact absurd product not_typed_of_fault
  | [_], [_, _] =>
      cases leftColumn with
      | true => exact absurd product not_typed_of_fault
      | false => exact ⟨vector, matrix, components, rfl, typed_of_guarded product⟩
  | [_, _], [_, _] => exact ⟨matrix, matrix, components, rfl, typed_of_guarded product⟩
  | _ :: _ :: _ :: _, [_] | _ :: _ :: _ :: _, [_, _] | _ :: _ :: _ :: _, _ :: _ :: _ :: _
  | [_], _ :: _ :: _ :: _ | [_, _], _ :: _ :: _ :: _ =>
      exact absurd product faulty_not_typed

variable [BEq σ] {first second third left right whole : TensorType σ}

-- A row times a column has no ends: what follows such a product replaces it as a whole.
theorem product_after (thirdRegular : third.Regular allowed) (firstProper : first.isScalar = false)
    (secondProper : second.isScalar = false) (thirdProper : third.isScalar = false)
    (inner : first.productOf second = .typed left) (beside : second.productOf third = .typed right)
    (outer : left.productOf third = .typed whole) :
    whole = ofEnds first.component first.leftEnd third.rightEnd := by
  have front := product_joined firstProper secondProper inner
  have back := product_joined secondProper thirdProper beside
  cases flat : left.isScalar with
  | true =>
      have closed := flat
      rw [front.type, isScalar_ofEnds, Bool.and_eq_true, Option.isNone_iff_eq_none,
        Option.isNone_iff_eq_none] at closed
      have free : third.leftEnd = none := by
        rw [← Option.not_isSome_iff_eq_none, ← back.meet, closed.2]
        exact Bool.false_ne_true
      calc whole = third := scalar_product flat outer
        _ = ofEnds third.component third.leftEnd third.rightEnd :=
            (ofEnds_ends thirdRegular back.rightSmall).symm
        _ = ofEnds first.component first.leftEnd third.rightEnd := by
            rw [free, closed.1, front.components, back.components]
  | false =>
      rw [(product_joined flat thirdProper outer).type, front.type, component_ofEnds,
        leftEnd_ofEnds]

theorem product_before (firstRegular : first.Regular allowed)
    (rightRegular : right.Regular allowed) (firstProper : first.isScalar = false)
    (secondProper : second.isScalar = false) (thirdProper : third.isScalar = false)
    (inner : second.productOf third = .typed right) (beside : first.productOf second = .typed left)
    (outer : first.productOf right = .typed whole) :
    whole = ofEnds first.component first.leftEnd third.rightEnd := by
  have front := product_joined firstProper secondProper beside
  have back := product_joined secondProper thirdProper inner
  cases flat : right.isScalar with
  | true =>
      have closed := flat
      rw [back.type, isScalar_ofEnds, Bool.and_eq_true, Option.isNone_iff_eq_none,
        Option.isNone_iff_eq_none] at closed
      have free : first.rightEnd = none := by
        rw [← Option.not_isSome_iff_eq_none, front.meet, closed.1]
        exact Bool.false_ne_true
      calc whole = first := product_scalar firstRegular rightRegular flat outer
        _ = ofEnds first.component first.leftEnd first.rightEnd :=
            (ofEnds_ends firstRegular front.leftSmall).symm
        _ = ofEnds first.component first.leftEnd third.rightEnd := by rw [free, closed.2]
  | false =>
      rw [(product_joined firstProper flat outer).type, back.type, rightEnd_ofEnds]

theorem product_assoc {other : TensorType σ} (firstRegular : first.Regular allowed)
    (secondRegular : second.Regular allowed) (thirdRegular : third.Regular allowed)
    (front : first.productOf second = .typed left) (leftWhole : left.productOf third = .typed whole)
    (back : second.productOf third = .typed right)
    (rightWhole : first.productOf right = .typed other) : whole = other := by
  have leftRegular : left.Regular allowed :=
    product_regular firstRegular secondRegular (congrArg Product.type? front)
  have rightRegular : right.Regular allowed :=
    product_regular secondRegular thirdRegular (congrArg Product.type? back)
  cases firstFlat : first.isScalar with
  | true =>
      rw [scalar_product firstFlat front] at leftWhole
      rw [scalar_product firstFlat rightWhole]
      exact product_unique leftWhole back
  | false =>
      cases secondFlat : second.isScalar with
      | true =>
          rw [product_scalar firstRegular secondRegular secondFlat front] at leftWhole
          rw [scalar_product secondFlat back] at rightWhole
          exact product_unique leftWhole rightWhole
      | false =>
          cases thirdFlat : third.isScalar with
          | true =>
              rw [product_scalar secondRegular thirdRegular thirdFlat back] at rightWhole
              rw [product_scalar leftRegular thirdRegular thirdFlat leftWhole]
              exact product_unique front rightWhole
          | false =>
              rw [product_after thirdRegular firstFlat secondFlat thirdFlat front back leftWhole,
                product_before firstRegular rightRegular firstFlat secondFlat thirdFlat back front
                  rightWhole]

end TensorType

theorem TensorType.faultless_times {left right : TensorType Var}
    (faultless : left.timesFaults right = 0) :
    ∃ type, left.productOf right = .typed type ∧ left.times? right = some type := by
  rw [timesFaults, Nat.add_eq_zero_iff, Nat.add_eq_zero_iff] at faultless
  obtain ⟨⟨leftNumeric, rightNumeric⟩, none⟩ := faultless
  rw [Bool.toNat_eq_zero, Bool.not_eq_false'] at leftNumeric rightNumeric
  rw [leftNumeric, rightNumeric, Bool.and_self, if_pos rfl, List.length_eq_zero_iff,
    Option.toList_eq_nil_iff] at none
  obtain ⟨type, typed⟩ := Option.isSome_iff_exists.mp (product_typed none)
  refine ⟨type, ?_, ?_⟩
  · exact congrArg₂ Product.mk typed none
  · rw [times?, leftNumeric, rightNumeric]
    exact typed

theorem mul_clean {span leftSpan rightSpan : Span} {left right : TensorType Var}
    (clean : (BinaryOp.mul.check span ⟨leftSpan, .tensor left⟩
      ⟨rightSpan, .tensor right⟩).log.errors = []) :
    ∃ type, left.productOf right = .typed type ∧
      (BinaryOp.mul.check span ⟨leftSpan, .tensor left⟩ ⟨rightSpan, .tensor right⟩).value =
        .tensor type := by
  obtain ⟨value, counted⟩ := mul_tensors span leftSpan rightSpan left right
  rw [clean] at counted
  obtain ⟨type, product, typed⟩ := TensorType.faultless_times counted.symm
  exact ⟨type, product, by rw [value, typed]; rfl⟩

def timesLeft (inner outer : Span) (first second third : Operand) : Logged Outcome := do
  let types ← BinaryOp.mul.check inner first second
  BinaryOp.mul.check outer ⟨inner, types⟩ third

def timesRight (inner outer : Span) (first second third : Operand) : Logged Outcome := do
  let types ← BinaryOp.mul.check inner second third
  BinaryOp.mul.check outer first ⟨inner, types⟩

section

variable {inner outer firstSpan secondSpan thirdSpan : Span} {first second third : TensorType Var}

theorem times_left_clean
    (clean : (timesLeft inner outer ⟨firstSpan, .tensor first⟩ ⟨secondSpan, .tensor second⟩
      ⟨thirdSpan, .tensor third⟩).log.errors = []) :
    ∃ left whole, first.productOf second = .typed left ∧ left.productOf third = .typed whole ∧
      (timesLeft inner outer ⟨firstSpan, .tensor first⟩ ⟨secondSpan, .tensor second⟩
        ⟨thirdSpan, .tensor third⟩).value = .tensor whole := by
  obtain ⟨early, late⟩ := Logged.bind_clean.mp clean
  obtain ⟨left, front, typed⟩ := mul_clean early
  rw [typed] at late
  obtain ⟨whole, product, value⟩ := mul_clean late
  refine ⟨left, whole, front, product, ?_⟩
  rw [timesLeft, Logged.value_bind, typed]
  exact value

theorem times_right_clean
    (clean : (timesRight inner outer ⟨firstSpan, .tensor first⟩ ⟨secondSpan, .tensor second⟩
      ⟨thirdSpan, .tensor third⟩).log.errors = []) :
    ∃ right whole, second.productOf third = .typed right ∧ first.productOf right = .typed whole ∧
      (timesRight inner outer ⟨firstSpan, .tensor first⟩ ⟨secondSpan, .tensor second⟩
        ⟨thirdSpan, .tensor third⟩).value = .tensor whole := by
  obtain ⟨early, late⟩ := Logged.bind_clean.mp clean
  obtain ⟨right, back, typed⟩ := mul_clean early
  rw [typed] at late
  obtain ⟨whole, product, value⟩ := mul_clean late
  refine ⟨right, whole, back, product, ?_⟩
  rw [timesRight, Logged.value_bind, typed]
  exact value

end

/--
Products are associative. If both groupings of three factors are checked without an error at any of
their products, they have the same type.
-/
theorem products_associate {allowed : Var → Prop} {first second third : TensorType Var}
    (firstRegular : first.Regular allowed) (secondRegular : second.Regular allowed)
    (thirdRegular : third.Regular allowed)
    (leftInner leftOuter rightInner rightOuter firstSpan secondSpan thirdSpan : Span) :
    let left := timesLeft leftInner leftOuter ⟨firstSpan, .tensor first⟩
      ⟨secondSpan, .tensor second⟩ ⟨thirdSpan, .tensor third⟩
    let right := timesRight rightInner rightOuter ⟨firstSpan, .tensor first⟩
      ⟨secondSpan, .tensor second⟩ ⟨thirdSpan, .tensor third⟩
    left.log.errors = [] → right.log.errors = [] →
      ∃ type, left.value = .tensor type ∧ right.value = .tensor type := by
  intro left right leftClean rightClean
  obtain ⟨between, whole, front, leftWhole, leftValue⟩ := times_left_clean leftClean
  obtain ⟨behind, other, back, rightWhole, rightValue⟩ := times_right_clean rightClean
  obtain rfl := TensorType.product_assoc firstRegular secondRegular thirdRegular front leftWhole
    back rightWhole
  exact ⟨whole, leftValue, rightValue⟩

theorem row_column_row_associate :
    let axis : Axis Var := [.dynamic, .range 3]
    let row : TensorType Var := ⟨.float, [axis], false⟩
    let column : TensorType Var := ⟨.float, [axis], true⟩
    let left := timesLeft .origin .origin ⟨.origin, .tensor row⟩ ⟨.origin, .tensor column⟩
      ⟨.origin, .tensor row⟩
    let right := timesRight .origin .origin ⟨.origin, .tensor row⟩ ⟨.origin, .tensor column⟩
      ⟨.origin, .tensor row⟩
    (row.Regular fun _ => True) ∧ (column.Regular fun _ => True) ∧ left.log.errors = [] ∧
      right.log.errors = [] ∧ left.value = .tensor row ∧ right.value = .tensor row := by
  intro axis row column left right
  have rowRegular : row.Regular fun _ => True :=
    TensorType.regular_of_axes .float _ false 2 (by decide) (by decide) (by simp [axis]) (by simp)
  have columnRegular : column.Regular fun _ => True :=
    TensorType.regular_of_axes .float _ true 2 (by decide) (by decide) (by simp [axis]) (by simp)
  have leftClean : left.log.errors = [] := rfl
  have rightClean : right.log.errors = [] := rfl
  obtain ⟨type, leftTyped, rightTyped⟩ :=
    products_associate rowRegular columnRegular rowRegular .origin .origin .origin .origin .origin
      .origin .origin leftClean rightClean
  have found : left.value = .tensor row := rfl
  have single : some [Ty.tensor row] = some [.tensor type] := found.symm.trans leftTyped
  cases single
  exact ⟨rowRegular, columnRegular, leftClean, rightClean, leftTyped, rightTyped⟩

end TensorLang
