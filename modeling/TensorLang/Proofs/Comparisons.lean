import TensorLang.Proofs.FadingOperators
import TensorLang.Proofs.Reads
import TensorLang.Proofs.Sameness
import TensorLang.Proofs.SoundDefinitions

set_option autoImplicit false

namespace TensorLang

namespace Outcome

def scalar? (outcome : Outcome) : Outcome := outcome.filter (isSingle Ty.isScalar)

def isNoScalar (outcome : Outcome) : Bool :=
  outcome.any fun types => !isSingle Ty.isScalar types

def isOtherScalar (outcome first? : Outcome) : Bool :=
  outcome.scalar?.any fun types => first?.any (· != types)

/-- What a chain whose first scalar is given has against an operand of these types. -/
def objection? (outcome first? : Outcome) : Option Mismatch :=
  match outcome with
  | none => none
  | some types =>
      if isSingle Ty.isScalar types then
        (first?.filter (· != types)).map fun first => .compared types first
      else some (.notComparable types)

section

variable {types : List Ty} (first? : Outcome)

theorem scalar_of_single (single : isSingle Ty.isScalar types = true) :
    scalar? (some types) = some types :=
  Option.filter_some_pos single

theorem scalar_of_other (other : isSingle Ty.isScalar types = false) :
    scalar? (some types) = none :=
  Option.filter_some_neg other

theorem objection_to_single (single : isSingle Ty.isScalar types = true) :
    objection? (some types) first? =
      (first?.filter (· != types)).map fun first => .compared types first :=
  if_pos single

theorem objection_to_other (other : isSingle Ty.isScalar types = false) :
    objection? (some types) first? = some (.notComparable types) :=
  if_neg (ne_true_of_eq_false other)

end

theorem objection_isSome (outcome first? : Outcome) :
    (outcome.objection? first?).isSome =
      (outcome.isNoScalar || outcome.isOtherScalar first?) := by
  cases outcome with
  | none => rfl
  | some types =>
      cases single : isSingle Ty.isScalar types with
      | true =>
          rw [objection_to_single first? single, isOtherScalar, scalar_of_single single]
          cases first? with
          | none => simp [isNoScalar, single]
          | some first => cases same : first == types <;> simp [isNoScalar, single, same, bne]
      | false =>
          rw [objection_to_other first? single]
          simp [isNoScalar, single]

theorem other_scalar_is_scalar {outcome first? : Outcome}
    (differs : outcome.isOtherScalar first? = true) : outcome.isNoScalar = false := by
  cases outcome with
  | none => rfl
  | some types =>
      cases single : isSingle Ty.isScalar types with
      | true => simp [isNoScalar, single]
      | false =>
          rw [isOtherScalar, scalar_of_other single] at differs
          cases differs

theorem objection_eq_none_iff {outcome first? : Outcome} :
    outcome.objection? first? = none ↔ ∀ types, outcome = some types →
      isSingle Ty.isScalar types = true ∧
        ∀ first, first? = some first → (first == types) = true := by
  cases outcome with
  | none => exact iff_of_true rfl fun _ known => nomatch known
  | some types =>
      cases single : isSingle Ty.isScalar types with
      | true => simp [objection_to_single first? single, single, bne]
      | false => simp [objection_to_other first? single, single]

theorem objection_settled (outcome first? later? : Outcome) :
    outcome.objection? ((first?.or outcome.scalar?).or later?) =
      outcome.objection? (first?.or outcome.scalar?) := by
  cases outcome with
  | none => rfl
  | some types =>
      cases single : isSingle Ty.isScalar types with
      | true =>
          rw [scalar_of_single single]
          cases first? <;> rfl
      | false => rw [objection_to_other _ single, objection_to_other _ single]

end Outcome

def firstScalar? (visits : List Visit) : Outcome :=
  visits.findSome? fun visit => visit.check.value.scalar?

def Visit.objection? (visit : Visit) (first? : Outcome) : Option TypeError :=
  (visit.check.value.objection? first?).map fun cause => ⟨visit.span, .mismatch cause⟩

/-- What a chain of comparisons reports of its operands beyond what they report themselves. -/
def objections (visits : List Visit) : List TypeError :=
  visits.filterMap (·.objection? (firstScalar? visits))

theorem first_scalar_cons (visit : Visit) (rest : List Visit) :
    firstScalar? (visit :: rest) = visit.check.value.scalar?.or (firstScalar? rest) := by
  rw [firstScalar?, List.findSome?_cons]
  cases visit.check.value.scalar? <;> rfl

theorem compare_with_step (visit : Visit) (first? : Outcome) :
    let compared := visit.operand.value.compareWith first?
    compared.value = first?.or visit.check.value.scalar? ∧
      compared.log.errors =
        (visit.objection? (first?.or visit.check.value.scalar?)).toList := by
  dsimp only
  have operand : visit.operand.value = ⟨visit.span, visit.check.value⟩ := rfl
  rw [operand, Visit.objection?]
  cases visit.check.value with
  | none => exact ⟨Option.or_none.symm, rfl⟩
  | some types =>
      cases single : isSingle Ty.isScalar types with
      | true =>
          rw [Outcome.scalar_of_single single, Outcome.objection_to_single _ single]
          cases first? with
          | none =>
              rw [compare_first visit.span single]
              simp [bne]
          | some first =>
              rw [compare_next visit.span first single]
              cases same : first == types <;> simp [same, bne, Option.filter]
      | false =>
          rw [Outcome.scalar_of_other single, Outcome.objection_to_other _ single]
          unfold Operand.compareWith
          dsimp only
          rw [if_neg (ne_true_of_eq_false single)]
          exact ⟨Option.or_none.symm, rfl⟩

-- The errors of the operands and the objections to them alternate. An operand is judged by the
-- first scalar of the whole chain, although the rest of it has not been visited yet: where no
-- scalar has been found before, the operand is the first one itself or is not compared.
theorem compare_all_errors (visits : List Visit) (first? : Outcome) :
    (compareAll first? visits).log.errors = visits.flatMap fun visit =>
      visit.check.log.errors ++ (visit.objection? (first?.or (firstScalar? visits))).toList := by
  induction visits generalizing first? with
  | nil => rfl
  | cons visit rest ih =>
      obtain ⟨next, compared⟩ := compare_with_step visit first?
      have first : first?.or (firstScalar? (visit :: rest)) =
          (first?.or visit.check.value.scalar?).or (firstScalar? rest) := by
        rw [first_scalar_cons, Option.or_assoc]
      have objection : visit.objection? (first?.or (firstScalar? (visit :: rest))) =
          visit.objection? (first?.or visit.check.value.scalar?) := by
        rw [first, Visit.objection?, Outcome.objection_settled]
        rfl
      have own : visit.operand.log.errors = visit.check.log.errors := by simp [Visit.operand]
      rw [compareAll, Logged.log_bind, Log.errors_append, Logged.log_bind, Log.errors_append, own,
        compared, ih, next, List.flatMap_cons, objection, first, List.append_assoc]

section

variable {visits : List Visit}

theorem objections_length :
    (objections visits).length =
      visits.countP (·.check.value.isNoScalar) +
        visits.countP (·.check.value.isOtherScalar (firstScalar? visits)) := by
  rw [objections, List.length_filterMap_eq_countP]
  generalize firstScalar? visits = first?
  induction visits with
  | nil => rfl
  | cons visit rest ih =>
      have reason : (visit.objection? first?).isSome =
          (visit.check.value.isNoScalar || visit.check.value.isOtherScalar first?) := by
        rw [Visit.objection?, Option.isSome_map, Outcome.objection_isSome]
      simp only [List.countP_cons, ih, reason]
      cases differs : visit.check.value.isOtherScalar first? with
      | true =>
          rw [Outcome.other_scalar_is_scalar differs]
          simp
          omega
      | false =>
          simp
          omega

theorem first_scalar_single {first : List Ty} (found : firstScalar? visits = some first) :
    isSingle Ty.isScalar first = true := by
  obtain ⟨visit, _, known⟩ := List.exists_of_findSome?_eq_some found
  exact (Option.filter_eq_some_iff.mp known).2

/-- A chain has no objection if all types that are known are those of one and the same scalar. -/
theorem objections_eq_nil_iff :
    objections visits = [] ↔ ∃ scalar : Ty, scalar.isScalar = true ∧
      ∀ visit ∈ visits, ∀ types, visit.check.value = some types → types = [scalar] := by
  simp only [objections, List.filterMap_eq_nil_iff, Visit.objection?, Option.map_eq_none_iff,
    Outcome.objection_eq_none_iff]
  constructor
  · intro suits
    cases found : firstScalar? visits with
    | none =>
        -- Without a first scalar there is none at all, and no type is known.
        refine ⟨.bool, rfl, fun visit member types known => ?_⟩
        have missing := List.findSome?_eq_none_iff.mp found visit member
        rw [known, Outcome.scalar_of_single (suits visit member types known).1] at missing
        cases missing
    | some first =>
        have single := first_scalar_single found
        obtain ⟨component, column, rfl⟩ := single_scalar single
        refine ⟨.tensor ⟨component, [], column⟩, rfl, fun visit member types known => ?_⟩
        obtain ⟨other, same⟩ := suits visit member types known
        exact (scalars_equal single other (same _ found)).symm
  · rintro ⟨scalar, flat, alike⟩ visit member types known
    refine ⟨alike visit member types known ▸ flat, fun first found => ?_⟩
    obtain ⟨leader, leads, scalars⟩ := List.exists_of_findSome?_eq_some found
    have typed := (Option.filter_eq_some_iff.mp scalars).1
    rw [alike visit member types known, alike leader leads first typed]
    exact ReflBEq.rfl

theorem objections_eq_nil_of_perm {shuffled : List Visit} (same : shuffled.Perm visits) :
    objections shuffled = [] ↔ objections visits = [] := by
  simp only [objections_eq_nil_iff, same.mem_iff]

end

theorem single_scalar_component {elements : List Element} {limit : ℕ∞} {type : Ty}
    (valid : type.WellFormed elements limit) (flat : type.isScalar = true) :
    ∃ component, type = .ofScalar component := by
  cases type with
  | tensor shape =>
      refine ⟨shape.component, congrArg Ty.tensor ?_⟩
      exact TensorType.eq_scalar (Ty.wellFormed_tensor.mp valid) flat
  | set => exact nomatch flat
  | tuple => exact nomatch flat
  | element => exact nomatch flat

section

variable {table : SymbolTable} {operands : List (Expr Node)}

def AllOfType (table : SymbolTable) (operands : List (Expr Node)) (type : Ty) : Prop :=
  ∀ operand ∈ operands, ∀ types, (operand.infer table .read).value = some types → types = [type]

theorem objections_iff_of_type :
    objections (operands.map (Expr.visit table)) = [] ↔
      ∃ scalar : Ty, scalar.isScalar = true ∧ AllOfType table operands scalar := by
  simp only [objections_eq_nil_iff, List.forall_mem_map, AllOfType, Expr.visit]

theorem component_of_type {limit : ℕ∞} (valid : table.WellFormed limit) :
    (∃ scalar : Ty, scalar.isScalar = true ∧ AllOfType table operands scalar) ↔
      ∃ component, AllOfType table operands (.ofScalar component) := by
  constructor
  · rintro ⟨scalar, flat, alike⟩
    by_cases known : ∃ operand ∈ operands, ∃ types, (operand.infer table .read).value = some types
    · obtain ⟨operand, member, types, typed⟩ := known
      have single : (operand.infer table .read).value = some [scalar] :=
        alike operand member types typed ▸ typed
      obtain ⟨component, rfl⟩ :=
        single_scalar_component ((infer_yields valid .read operand).value.single single) flat
      exact ⟨component, alike⟩
    · exact ⟨.bool, fun operand member types typed => absurd ⟨operand, member, types, typed⟩ known⟩
  · rintro ⟨component, alike⟩
    exact ⟨.ofScalar component, rfl, alike⟩

end

/--
A chain of comparisons is a boolean, whatever its operands are. What it reports beyond their own
errors is an objection to each operand that is no scalar and to each scalar whose type is not that
of the first one, and to nothing else. So it accepts operands in one order if it accepts them in
another, and just those whose types, as far as they are known, are one scalar type. A scalar type is
its component type if the types that the table holds are well formed.
-/
theorem comparison_accepts_equal_scalars (table : SymbolTable) (mode : Mode) (node : Node)
    (operands : List (Expr Node)) (operators : List CompareOp) :
    let chain := (Expr.compare node operands operators).infer table mode
    let visits := operands.map (Expr.visit table)
    chain.value = .one .bool ∧
      chain.log.errors = (visits.flatMap fun visit =>
        visit.check.log.errors ++ (visit.objection? (firstScalar? visits)).toList) ∧
      (objections visits).length = visits.countP (·.check.value.isNoScalar) +
        visits.countP (·.check.value.isOtherScalar (firstScalar? visits)) ∧
      (∀ shuffled : List (Expr Node), shuffled.Perm operands →
        (objections (shuffled.map (Expr.visit table)) = [] ↔ objections visits = [])) ∧
      (objections visits = [] ↔
        ∃ scalar : Ty, scalar.isScalar = true ∧ AllOfType table operands scalar) ∧
      ∀ limit, table.WellFormed limit →
        (objections visits = [] ↔ ∃ component, AllOfType table operands (.ofScalar component)) := by
  intro chain visits
  refine ⟨rfl, ?_, objections_length, ?_, objections_iff_of_type, ?_⟩
  · have visited : chain.log.errors = (compareAll none visits).log.errors := by
      simp [chain, visits, Expr.infer, visits_eq_map, checkComparison]
    rw [visited, compare_all_errors, Option.none_or]
  · intro shuffled same
    exact objections_eq_nil_of_perm (same.map _)
  · intro limit valid
    exact objections_iff_of_type.trans (component_of_type valid)

-- The chain begins with a vector and a variable of unknown type. Its first scalar is an integer, so
-- that the vector and the other number are reported.
theorem mixed_chain_objections :
    let node : Node := ⟨0, .origin⟩
    let table := SymbolTable.empty.bind "lost" none .readWrite
    let pair : Expr Node := .dense (.ints node [1, 2] false)
    let lost : Expr Node := .ident ⟨node, "lost"⟩
    let operands := [pair, lost, .int node 1, .float node 2]
    let shuffled := [.float node 2, .int node 1, lost, pair]
    let chain := (Expr.compare node operands [.lt, .le, .eq]).infer table .read
    table.WellFormed ⊤ ∧ shuffled.Perm operands ∧ chain.value = .one .bool ∧
      chain.log.errors =
        [⟨.origin, .mismatch (.notComparable [.tensor ⟨.int, [[.range 2]], false⟩])⟩,
          ⟨.origin, .mismatch (.compared [.float] [.int])⟩] ∧
      (objections (operands.map (Expr.visit table))).length = 2 ∧
      objections (shuffled.map (Expr.visit table)) ≠ [] ∧
      ¬∃ component, AllOfType table operands (.ofScalar component) := by
  intro node table pair lost operands shuffled chain
  have valid : table.WellFormed ⊤ :=
    empty_wellFormed.bind "lost" .readWrite fun _ typed => nomatch typed
  have order : shuffled.Perm operands := List.reverse_perm operands
  obtain ⟨value, errors, count, orders, -, components⟩ :=
    comparison_accepts_equal_scalars table .read node operands [.lt, .le, .eq]
  have two : (objections (operands.map (Expr.visit table))).length = 2 := count.trans rfl
  have refused : objections (operands.map (Expr.visit table)) ≠ [] :=
    List.ne_nil_of_length_pos (two ▸ Nat.two_pos)
  exact ⟨valid, order, value, errors.trans rfl, two, mt (orders shuffled order).mp refused,
    mt (components ⊤ valid).mpr refused⟩

end TensorLang
