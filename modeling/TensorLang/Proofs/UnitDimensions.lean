import TensorLang.Proofs.InitialValues
import TensorLang.Proofs.Sameness

set_option autoImplicit false

namespace TensorLang

variable {σ : Type}

def units (count : Nat) : List (IndexSet σ) := List.replicate count (.range 1)

theorem leading_units (leading : List (IndexSet σ)) :
    ∃ count rest, leading = units count ++ rest ∧ rest.head? ≠ some (.range 1) := by
  induction leading with
  | nil => exact ⟨0, [], rfl, fun first => (nomatch first)⟩
  | cons first later ih =>
      by_cases unit : first = .range 1
      · obtain ⟨count, rest, rfl, proper⟩ := ih
        exact ⟨count + 1, rest, by rw [unit]; rfl, proper⟩
      · exact ⟨0, first :: later, rfl, fun same => unit (Option.some.inj same)⟩

namespace TensorType

-- The tensor as the only entry along one more dimension.
def prependUnit (column : Bool) (tensor : TensorType σ) : TensorType σ :=
  ⟨tensor.component, [.range 1] :: tensor.axes, column⟩

section

theorem prependUnit_flat (column : Bool) (tensor : TensorType σ) :
    (tensor.prependUnit column).nesting ≤ 1 :=
  Nat.le_refl 1

variable [BEq σ]

theorem unit_iff (index : IndexSet σ) : (index == .range 1) = true ↔ index = .range 1 := by
  change index.same (.range 1) = true ↔ index = .range 1
  cases index with
  | range size =>
      rw [IndexSet.same, beq_iff_eq]
      exact ⟨fun same => same ▸ rfl, fun same => IndexSet.range.inj same⟩
  | set member => exact iff_of_false Bool.false_ne_true fun same => (nomatch same)
  | dynamic => exact iff_of_false Bool.false_ne_true fun same => (nomatch same)

theorem dropUnits_cons (first : IndexSet σ) (rest : List (IndexSet σ)) :
    dropUnits (first :: rest) =
      if (first == .range 1) = true then dropUnits rest else first :: rest :=
  List.dropWhile_cons

theorem dropUnits_units (count : Nat) {rest : List (IndexSet σ)}
    (proper : rest.head? ≠ some (.range 1)) : dropUnits (units count ++ rest) = rest := by
  induction count with
  | zero =>
      cases rest with
      | nil => rfl
      | cons first later =>
          change dropUnits (first :: later) = first :: later
          rw [dropUnits_cons, if_neg]
          rw [unit_iff]
          exact fun same => proper (same ▸ rfl)
  | succ count ih => exact (dropUnits_cons _ _).trans ((if_pos rfl).trans ih)

variable [PartialEquivBEq σ]

theorem dropUnits_same {left right : List (IndexSet σ)} (same : (left == right) = true) :
    (dropUnits left == dropUnits right) = true := by
  induction left generalizing right with
  | nil =>
      cases right with
      | nil => rfl
      | cons other later => cases same
  | cons first rest ih =>
      cases right with
      | nil => cases same
      | cons other later =>
          have parts := same
          rw [List.cons_beq_cons, Bool.and_eq_true] at parts
          rw [dropUnits_cons, dropUnits_cons, BEq.congr_left parts.1]
          by_cases unit : (other == .range 1) = true
          · rw [if_pos unit, if_pos unit]
            exact ih parts.2
          · rw [if_neg unit, if_neg unit]
            exact same

theorem dropUnits_same_iff [ReflBEq σ] (left right : List (IndexSet σ)) :
    (dropUnits left == dropUnits right) = true ↔
      ∃ before after rest, rest.head? ≠ some (.range 1) ∧
        (left == units before ++ rest) = true ∧ (right == units after ++ rest) = true := by
  constructor
  · intro same
    obtain ⟨before, leftRest, rfl, leftProper⟩ := leading_units left
    obtain ⟨after, rest, rfl, proper⟩ := leading_units right
    rw [dropUnits_units before leftProper, dropUnits_units after proper] at same
    refine ⟨before, after, rest, proper, ?_, ReflBEq.rfl⟩
    clear leftProper
    induction before with
    | zero => exact same
    | succ before ih => exact ih
  · rintro ⟨before, after, rest, proper, leftSame, rightSame⟩
    have left := dropUnits_same leftSame
    have right := dropUnits_same rightSame
    rw [dropUnits_units _ proper] at left right
    exact PartialEquivBEq.trans left (PartialEquivBEq.symm right)

end

section

variable [BEq σ] {declared value : TensorType σ}

theorem outer_same (same : (declared == value) = true) :
    (declared.outer == value.outer) = true := by
  have axes := (beq_parts.mp same).2.1
  rw [outer, outer]
  generalize declared.axes = left, value.axes = right at axes
  induction left generalizing right with
  | nil =>
      cases right with
      | nil => rfl
      | cons other later => cases axes
  | cons axis rest ih =>
      cases right with
      | nil => cases axes
      | cons other later =>
          rw [List.cons_beq_cons, Bool.and_eq_true] at axes
          have tail := ih later axes.2
          cases axis with
          | nil =>
              cases other with
              | nil => exact tail
              | cons leading inner => cases axes.1
          | cons leading inner =>
              cases other with
              | nil => cases axes.1
              | cons otherLeading otherInner =>
                  have heads := List.cons_beq_cons.symm.trans axes.1
                  rw [Bool.and_eq_true] at heads
                  exact List.cons_beq_cons.trans (Bool.and_eq_true_iff.mpr ⟨heads.1, tail⟩)

end

theorem sameUpToUnits_flat [BEq σ] {declared value : TensorType σ}
    (declaredFlat : declared.nesting ≤ 1) (valueFlat : value.nesting ≤ 1) :
    declared.sameUpToUnits value = (declared.component == value.component &&
      dropUnits declared.outer == dropUnits value.outer) := by
  rw [sameUpToUnits, block, if_pos declaredFlat, block, if_pos valueFlat]
  change (declared.component == value.component && true && true && _) = _
  rw [Bool.and_true, Bool.and_true]

end TensorType

theorem constant_takes_shape {declared value : TensorType Var} (proper : value.isScalar = false)
    (declaredFlat : declared.nesting ≤ 1) (valueFlat : value.nesting ≤ 1) :
    Constancy.constant.takes (.tensor declared) [.tensor value] =
      (declared.component == value.component &&
        TensorType.dropUnits declared.outer == TensorType.dropUnits value.outer) := by
  have shape := TensorType.sameUpToUnits_flat declaredFlat valueFlat
  change ((value == declared || (value.isScalar && declared.component == value.component)) ||
    declared.sameUpToUnits value) = _
  rw [proper, Bool.false_and, Bool.or_false, shape, BEq.comm]
  cases same : declared == value with
  | false => exact Bool.false_or _
  | true =>
      have outer := TensorType.dropUnits_same (TensorType.outer_same same)
      rw [(TensorType.beq_parts.mp same).1, beq_self_eq_true, outer]
      rfl

theorem variable_takes (declared value : TensorType Var) :
    Constancy.variable.takes (.tensor declared) [.tensor value] = true ↔
      (declared == value) = true ∨
        value.isScalar = true ∧ value.component = declared.component := by
  have components : (declared.component == value.component) = true ↔
      value.component = declared.component := beq_iff_eq.trans eq_comm
  change (value == declared || (value.isScalar && declared.component == value.component)) = true ↔ _
  rw [Bool.or_eq_true, Bool.and_eq_true, components, BEq.comm]

theorem constant_takes (declared value : TensorType Var) :
    Constancy.constant.takes (.tensor declared) [.tensor value] = true ↔
      Constancy.variable.takes (.tensor declared) [.tensor value] = true ∨
        declared.sameUpToUnits value = true :=
  Bool.or_eq_true_iff

theorem initial_value_errors {table : SymbolTable} {declaration : Declaration Node}
    (free : table.Admits declaration.name.text) {initial : Expr Node}
    (initialized : declaration.value = some initial) {declared found : Ty}
    (resolved : (declaration.type.resolve table).value = some declared)
    (typed : (initial.infer table .read).value = .one found) (constancy : Constancy) :
    (declaration.check table constancy).log.errors =
      (declaration.type.resolve table).log.errors ++ ((initial.infer table .read).log.errors ++
        if constancy.takes declared [found] then []
        else [⟨declaration.node.span, .mismatch (.initializer declared [found])⟩]) := by
  rw [declaration_unhindered table constancy declaration free, initialized]
  simp only [Logged.log_bind, Log.errors_append, Expr.inferValue, resolved, typed, Logged.log_pure,
    Log.errors_empty, List.append_nil]
  rfl

/--
What may initialize a constant or a variable. A constant takes a tensor of its own type, a scalar to
fill it, and a tensor with the same blocks whose outer index sets are the same after some leading
ranges of size one on either side; a variable takes the first two. Where nothing is blocked, one
more such dimension on either side makes no difference to a constant. A value that is not taken is
reported at the declaration.
-/
theorem constants_match_up_to_units (declared value : TensorType Var) :
    let takes (constancy : Constancy) (declared value : TensorType Var) : Bool :=
      constancy.takes (.tensor declared) [.tensor value]
    let fills : Prop := value.isScalar = true ∧ value.component = declared.component
    (takes .constant declared value = true ↔
      (declared == value) = true ∨ fills ∨ (declared.block == value.block) = true ∧
        ∃ before after rest, rest.head? ≠ some (.range 1) ∧
          (declared.outer == units before ++ rest) = true ∧
          (value.outer == units after ++ rest) = true) ∧
      (takes .variable declared value = true ↔ (declared == value) = true ∨ fills) ∧
      (takes .variable declared value = true → takes .constant declared value = true) ∧
      (declared.nesting ≤ 1 → value.nesting ≤ 1 → value.isScalar = false → ∀ column,
        takes .constant (declared.prependUnit column) value = takes .constant declared value ∧
          takes .constant declared (value.prependUnit column) =
            takes .constant declared value) ∧
      ∀ (table : SymbolTable) (declaration : Declaration Node) (initial : Expr Node),
        table.Admits declaration.name.text → declaration.value = some initial →
        (declaration.type.resolve table).value = some (.tensor declared) →
        (initial.infer table .read).value = .tensor value →
        ∀ constancy, (declaration.check table constancy).log.errors =
          (declaration.type.resolve table).log.errors ++
            ((initial.infer table .read).log.errors ++
              if takes constancy declared value then []
              else [⟨declaration.node.span,
                .mismatch (.initializer (.tensor declared) [.tensor value])⟩]) := by
  intro takes fills
  refine ⟨?_, variable_takes declared value, ?_, ?_, ?_⟩
  · refine (constant_takes declared value).trans ?_
    rw [variable_takes, TensorType.sameUpToUnits, Bool.and_eq_true, or_assoc,
      TensorType.dropUnits_same_iff]
  · exact fun taken => (constant_takes declared value).mpr (.inl taken)
  · intro declaredFlat valueFlat proper column
    have plain := constant_takes_shape proper declaredFlat valueFlat
    constructor
    · exact (constant_takes_shape proper (declared.prependUnit_flat column) valueFlat).trans
        plain.symm
    · exact (constant_takes_shape rfl declaredFlat (value.prependUnit_flat column)).trans
        plain.symm
  · intro table declaration initial free initialized resolved typed constancy
    exact initial_value_errors free initialized resolved typed constancy

theorem row_initializes_matrix :
    let node : Node := ⟨0, .origin⟩
    let matrix : TensorType Var := ⟨.float, [[.range 1], [.range 3]], false⟩
    let row : TensorType Var := ⟨.float, [[.range 3]], false⟩
    let table := SymbolTable.empty.bind "v" (some (.tensor row)) .read
    let initial : Expr Node := .ident ⟨node, "v"⟩
    let declaration : Declaration Node :=
      ⟨node, ⟨node, "m"⟩,
        .tensor node [.range node 1, .range node 3] (.scalar node .float) false, some initial⟩
    matrix.nesting ≤ 1 ∧ row.nesting ≤ 1 ∧ row.isScalar = false ∧
      table.Admits declaration.name.text ∧
      (declaration.type.resolve table).value = some (.tensor matrix) ∧
      (initial.infer table .read).value = .tensor row ∧
      Constancy.constant.takes (.tensor matrix) [.tensor row] = true ∧
      Constancy.constant.takes (.tensor (matrix.prependUnit false)) [.tensor row] = true ∧
      (declaration.check table .constant).log.errors = [] ∧
      (declaration.check table .variable).log.errors =
        [⟨.origin, .mismatch (.initializer (.tensor matrix) [.tensor row])⟩] := by
  intro node matrix row table initial declaration
  have free : table.Admits declaration.name.text := fun _ bound => (nomatch bound)
  obtain ⟨constant, _, _, prepended, judged⟩ := constants_match_up_to_units matrix row
  have taken : Constancy.constant.takes (.tensor matrix) [.tensor row] = true :=
    constant.mpr (.inr (.inr ⟨rfl, 1, 0, [.range 3], by simp, rfl, rfl⟩))
  have errors := judged table declaration initial free rfl rfl rfl
  refine ⟨Nat.le_refl 1, Nat.le_refl 1, rfl, free, rfl, rfl, taken, ?_, ?_, errors .variable⟩
  · exact (prepended (Nat.le_refl 1) (Nat.le_refl 1) rfl false).1.trans taken
  · exact (errors .constant).trans (by rw [if_pos taken]; rfl)

end TensorLang
