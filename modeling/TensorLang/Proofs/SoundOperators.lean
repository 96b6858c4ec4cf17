import TensorLang.Proofs.SoundAnnotations

set_option autoImplicit false

namespace TensorLang

variable {table : SymbolTable} {limit : ℕ∞}

theorem numeric_tensor_some {types : List Ty} {shape : TensorType Var}
    (numeric : numericTensor? types = some shape) : types = [.tensor shape] := by
  simp only [numericTensor?] at numeric
  split at numeric
  · split at numeric
    · rw [Option.some.inj numeric]
    · exact (nomatch numeric)
  · exact (nomatch numeric)

theorem expect_yields (accepts : List Ty → Bool) (cause : List Ty → Mismatch) (operand : Operand) :
    (operand.expect accepts cause).Yields (table.rule limit) fun _ => True := by
  simp only [Operand.expect]
  split
  · exact Logged.yields_pure trivial
  · exact Logged.yields_require trivial

theorem numeric_yields (side : Side) (arithmetic : Arithmetic) {operand : Operand}
    (valid : operand.types?.WellFormed table.elements limit) :
    (operand.numeric side arithmetic).Yields (table.rule limit)
      (IfKnown (TensorType.Regular (Var.WellFormedSet table.elements limit))) := by
  refine Logged.yields_bind (expect_yields _ _ operand) fun _ _ => ?_
  refine Logged.yields_pure fun shape known => ?_
  obtain ⟨types, typed, numeric⟩ := Option.bind_eq_some_iff.mp known
  rw [numeric_tensor_some numeric] at typed
  exact Ty.wellFormed_tensor.mp (Outcome.WellFormed.single valid typed)

theorem outcome_tensor {shape : TensorType Var}
    (regular : shape.Regular (Var.WellFormedSet table.elements limit)) :
    (Outcome.tensor shape).WellFormed table.elements limit :=
  Outcome.wellFormed_one (Ty.wellFormed_tensor.mpr regular)

theorem outcome_of_tensor {shape? : Option (TensorType Var)}
    (regular : IfKnown (TensorType.Regular (Var.WellFormedSet table.elements limit)) shape?) :
    (Outcome.ofTensor? shape?).WellFormed table.elements limit := by
  cases shape? with
  | none => exact Outcome.wellFormed_none
  | some shape => exact outcome_tensor (regular shape rfl)

theorem combine_yields (arithmetic : Arithmetic) (span : Span) {left right : TensorType Var}
    (leftRegular : left.Regular (Var.WellFormedSet table.elements limit))
    (rightRegular : right.Regular (Var.WellFormedSet table.elements limit)) :
    (arithmetic.combine span left right).Yields (table.rule limit)
      (Outcome.WellFormed table.elements limit) := by
  cases arithmetic with
  | elementwise =>
      simp only [Arithmetic.combine]
      cases typed : left.elementwise? right with
      | none => exact Logged.yields_fail trivial Outcome.wellFormed_none
      | some shape =>
          exact Logged.yields_pure
            (outcome_tensor (TensorType.elementwise_regular leftRegular rightRegular typed))
  | product =>
      rw [combine_product_promised]
      refine Logged.yields_bind (Logged.yields_reportAll fun _ _ => trivial) fun _ _ => ?_
      exact Logged.yields_pure (outcome_of_tensor fun shape typed =>
        TensorType.product_regular leftRegular rightRegular typed)
  | quotient =>
      simp only [Arithmetic.combine]
      cases typed : left.quotient right with
      | error fault => exact Logged.yields_fail trivial Outcome.wellFormed_none
      | ok shape =>
          exact Logged.yields_pure
            (outcome_tensor (TensorType.quotient_regular leftRegular rightRegular typed))

theorem arithmetic_yields (arithmetic : Arithmetic) (span : Span) {left right : Operand}
    (leftValid : left.types?.WellFormed table.elements limit)
    (rightValid : right.types?.WellFormed table.elements limit) :
    (arithmetic.check span left right).Yields (table.rule limit)
      (Outcome.WellFormed table.elements limit) := by
  have leftNumeric := numeric_yields .left arithmetic leftValid
  refine Logged.yields_bind leftNumeric fun left? leftKnown => ?_
  have rightNumeric := numeric_yields .right arithmetic rightValid
  refine Logged.yields_bind rightNumeric fun right? rightKnown => ?_
  cases left? with
  | none => exact Logged.yields_pure Outcome.wellFormed_none
  | some left =>
      cases right? with
      | none => exact Logged.yields_pure Outcome.wellFormed_none
      | some right =>
          exact combine_yields arithmetic span (leftKnown left rfl) (rightKnown right rfl)

theorem outcome_bool : (Outcome.one .bool).WellFormed table.elements limit :=
  Outcome.wellFormed_one (Ty.wellFormed_ofScalar .bool)

theorem logic_yields (left right : Operand) :
    (checkLogic left right).Yields (table.rule limit)
      (Outcome.WellFormed table.elements limit) := by
  refine Logged.yields_bind (expect_yields _ _ left) fun _ _ => ?_
  refine Logged.yields_bind (expect_yields _ _ right) fun _ _ => ?_
  exact Logged.yields_pure outcome_bool

theorem binary_yields (operator : BinaryOp) (span : Span) {left right : Operand}
    (leftValid : left.types?.WellFormed table.elements limit)
    (rightValid : right.types?.WellFormed table.elements limit) :
    (operator.check span left right).Yields (table.rule limit)
      (Outcome.WellFormed table.elements limit) := by
  cases operator with
  | or | and | xor => exact logic_yields left right
  | add | sub | elementMul | elementDiv =>
      exact arithmetic_yields .elementwise span leftValid rightValid
  | mul => exact arithmetic_yields .product span leftValid rightValid
  | div => exact arithmetic_yields .quotient span leftValid rightValid
  | power => exact Logged.yields_fail trivial Outcome.wellFormed_none

theorem operand_yields {visit : Visit}
    (valid : visit.check.Yields (table.rule limit) (Outcome.WellFormed table.elements limit)) :
    visit.operand.Yields (table.rule limit)
      fun operand => operand.types?.WellFormed table.elements limit :=
  Logged.yields_bind valid fun _ known => Logged.yields_pure known

theorem compare_with_yields (first? : Outcome) (operand : Operand) :
    (operand.compareWith first?).Yields (table.rule limit) fun _ => True := by
  simp only [Operand.compareWith]
  cases operand.types? with
  | none => exact Logged.yields_pure trivial
  | some types =>
      dsimp only
      by_cases scalar : isSingle Ty.isScalar types = true
      · rw [if_pos scalar]
        cases first? with
        | none => exact Logged.yields_pure trivial
        | some first =>
            refine Logged.yields_bind (Logged.yields_require trivial) fun _ _ => ?_
            exact Logged.yields_pure trivial
      · rw [if_neg scalar]
        refine Logged.yields_bind (Logged.yields_report trivial) fun _ _ => ?_
        exact Logged.yields_pure trivial

theorem compare_all_yields (first? : Outcome) (visits : List Visit)
    (valid : ∀ visit ∈ visits,
      visit.check.Yields (table.rule limit) (Outcome.WellFormed table.elements limit)) :
    (compareAll first? visits).Yields (table.rule limit) fun _ => True := by
  induction visits generalizing first? with
  | nil => exact Logged.yields_pure trivial
  | cons visit rest ih =>
      refine Logged.yields_bind (operand_yields (valid visit (by simp))) fun operand _ => ?_
      refine Logged.yields_bind (compare_with_yields first? operand) fun next? _ => ?_
      exact ih next? fun other member => valid other (by simp [member])

theorem comparison_yields (visits : List Visit)
    (valid : ∀ visit ∈ visits,
      visit.check.Yields (table.rule limit) (Outcome.WellFormed table.elements limit)) :
    (checkComparison visits).Yields (table.rule limit)
      (Outcome.WellFormed table.elements limit) :=
  Logged.yields_bind (compare_all_yields none visits valid) fun _ _ =>
    Logged.yields_pure outcome_bool

theorem unary_yields (operator : UnaryOp) {operand : Operand}
    (valid : operand.types?.WellFormed table.elements limit) :
    (operator.check operand).Yields (table.rule limit)
      (Outcome.WellFormed table.elements limit) := by
  cases operator with
  | not =>
      refine Logged.yields_bind (expect_yields _ _ operand) fun _ _ => ?_
      exact Logged.yields_pure outcome_bool
  | neg =>
      refine Logged.yields_bind (expect_yields _ _ operand) fun _ _ => ?_
      refine Logged.yields_pure fun types known => ?_
      exact valid types (Option.filter_eq_some_iff.mp known).1

theorem transposed_types_some {types : List Ty} {shape : TensorType Var}
    (transposed : transposedTypes? types = some shape) :
    ∃ operand, types = [.tensor operand] ∧ operand.transposed? = some shape := by
  simp only [transposedTypes?] at transposed
  split at transposed
  · rename_i operand
    exact ⟨operand, rfl, transposed⟩
  · exact (nomatch transposed)

theorem transpose_yields {operand : Operand}
    (valid : operand.types?.WellFormed table.elements limit) :
    (checkTranspose operand).Yields (table.rule limit)
      (Outcome.WellFormed table.elements limit) := by
  rw [check_transpose_promised]
  refine Logged.yields_bind (expect_yields _ _ operand) fun _ _ => ?_
  refine Logged.yields_pure (outcome_of_tensor fun shape known => ?_)
  obtain ⟨types, typed, transposed⟩ := Option.bind_eq_some_iff.mp known
  obtain ⟨whole, rfl, swapped⟩ := transposed_types_some transposed
  exact TensorType.transposed_regular
    (Ty.wellFormed_tensor.mp (Outcome.WellFormed.single valid typed)) swapped

end TensorLang
