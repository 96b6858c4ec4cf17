import TensorLang.Proofs.CompleteStmts
import TensorLang.Proofs.Frames
import TensorLang.Proofs.Sameness

set_option autoImplicit false

namespace TensorLang

open Logged

-- What a place of the type can take: values of the same type, and scalars that fill it.
def Ty.Receives (target value : Ty) : Prop :=
  target == value ∨ ∃ whole part : TensorType Var, target = .tensor whole ∧ value = .tensor part ∧
    part.isScalar = true ∧ part.component = whole.component

theorem Ty.receives_of_canBecome {target value : Ty} (taken : target.canBecome value = true) :
    target.Receives value := by
  rcases Bool.or_eq_true_iff.mp taken with same | filled
  · exact Or.inl same
  · cases target with
    | tensor whole =>
        cases value with
        | tensor part =>
            obtain ⟨scalar, component⟩ := Bool.and_eq_true_iff.mp filled
            exact Or.inr ⟨whole, part, rfl, rfl, scalar, (eq_of_beq component).symm⟩
        | _ => exact (nomatch filled)
    | _ => exact (nomatch filled)

-- The type that a target has after an assignment: that of its name, or of the place it stands for.
def Expr.assignedType? (before after : SymbolTable) (target : Expr Node) : Option Ty :=
  match target.ident? with
  | some name => (after.symbol? name.text).bind (·.var.type?)
  | none => (target.infer before target.targetMode).value.bind singleType?

-- The first of the targets that is nothing but the given name.
structure FirstNamed (targets : List (Expr Node)) (name : String) (first : Nat) : Prop where
  named : ∃ target, targets[first]? = some target ∧ name ∈ target.declares
  fresh : ∀ earlier < first, ∀ target, targets[earlier]? = some target → name ∉ target.declares

variable {table : SymbolTable}

theorem declare_target_type (table : SymbolTable) (target : Expr Node) (type? : Option Ty)
    (name : String) :
    ((table.declareTarget target type?).symbol? name).map (·.var.type?) =
      ((table.symbol? name).map (·.var.type?)).or
        (if name ∈ target.declares then some type? else none) := by
  simp only [SymbolTable.declareTarget]
  cases target with
  | ident found =>
      have declares : name ∈ (Expr.ident found).declares ↔ name = found.text := List.mem_singleton
      dsimp only [Expr.ident?]
      by_cases same : name = found.text
      · rw [if_pos (declares.mpr same), same]
        cases bound : table.symbol? found.text with
        | some symbol =>
            dsimp only
            rw [bound]
            rfl
        | none =>
            dsimp only
            rw [table.symbol?_bind, if_pos rfl]
            rfl
      · rw [if_neg (mt declares.mp same), Option.or_none]
        cases table.symbol? found.text with
        | some symbol => rfl
        | none =>
            dsimp only
            rw [table.symbol?_bind, if_neg (Ne.symm same)]
  | _ => exact Option.or_none.symm

theorem declare_targets_type (table : SymbolTable) (targets : List (Expr Node × Option Ty))
    (name : String) :
    ((table.declareTargets targets).symbol? name).map (·.var.type?) =
      ((table.symbol? name).map (·.var.type?)).or
        ((targets.find? fun target => decide (name ∈ target.1.declares)).map Prod.snd) := by
  induction targets generalizing table with
  | nil => exact Option.or_none.symm
  | cons target rest ih =>
      change (((table.declareTarget target.1 target.2).declareTargets rest).symbol? name).map _ = _
      rw [ih, declare_target_type, Option.or_assoc, List.find?_cons]
      by_cases first : name ∈ target.1.declares
      · rw [if_pos first, decide_eq_true first]
        rfl
      · rw [if_neg first, decide_eq_false first]
        rfl

theorem check_targets_errors (table : SymbolTable) (span : Span) (targets : List (Expr Node))
    (value : Expr Node) :
    (checkTargets table span targets value).log.errors =
      (value.infer table .read).log.errors ++
        ((targets.flatMap fun target => (target.infer table target.targetMode).log.errors) ++
          (value.infer table .read).value.elim []
            (assignmentErrors span (targets.mapM (Expr.checkTarget table)).value)) := by
  have each (target : Expr Node) :
      (target.checkTarget table).log.errors = (target.infer table target.targetMode).log.errors :=
    List.append_nil _
  simp only [checkTargets]
  rw [log_bind, log_bind, log_bind, Log.errors_append, Log.errors_append, Log.errors_append,
    errors_mapM, errors_reportAll]
  simp only [each, log_pure, Log.errors_empty, List.append_nil]

theorem assignment_errors_silent {span : Span} {targets : List Target} {values : List Ty}
    (silent : assignmentErrors span targets values = []) :
    values.length = targets.length ∧
      ∀ (index : Nat) (target : Target) (value : Ty), targets[index]? = some target →
        values[index]? = some value → target.error? value = none := by
  simp only [assignmentErrors] at silent
  by_cases counts : values.length = targets.length
  · rw [if_pos counts, List.filterMap_eq_nil_iff] at silent
    refine ⟨counts, fun index target value atTarget atValue => ?_⟩
    have paired : (targets.zip values)[index]? = some (target, value) :=
      List.getElem?_zip_eq_some.mpr ⟨atTarget, atValue⟩
    exact silent (target, value) (List.mem_of_getElem? paired)
  · rw [if_neg counts] at silent
    exact absurd silent (List.cons_ne_nil _ _)

theorem receives_of_silent {target : Target} {type value : Ty} (typed : target.type? = some type)
    (silent : target.error? value = none) : type.Receives value := by
  simp only [Target.error?] at silent
  rw [typed] at silent
  apply Ty.receives_of_canBecome
  by_contra wrong
  dsimp only at silent
  rw [if_neg wrong] at silent
  exact absurd silent (Option.some_ne_none _)

theorem new_name_type {targets : List (Expr Node)} {values : List Ty} {name : String}
    (free : table.symbol? name = none) {type : Ty}
    (typed : ((table.declareTargets (targets.zip (values.map some))).symbol? name).bind
      (·.var.type?) = some type) :
    ∃ first, FirstNamed targets name first ∧ values[first]? = some type := by
  have lookup := declare_targets_type table (targets.zip (values.map some)) name
  obtain ⟨symbol, bound, symbolType⟩ := Option.bind_eq_some_iff.mp typed
  rw [free, Option.map_none, Option.none_or, bound, Option.map_some, symbolType] at lookup
  obtain ⟨pair, found, value⟩ := Option.map_eq_some_iff.mp lookup.symm
  obtain ⟨named, first, inside, same, before⟩ := List.find?_eq_some_iff_getElem.mp found
  have atPair := List.getElem?_eq_some_iff.mpr ⟨inside, same⟩
  obtain ⟨atTarget, atValue⟩ := List.getElem?_zip_eq_some.mp atPair
  refine ⟨first, ⟨⟨pair.1, atTarget, of_decide_eq_true named⟩, ?_⟩, ?_⟩
  · intro earlier less target atEarlier
    obtain ⟨_, rfl⟩ := List.getElem?_eq_some_iff.mp atEarlier
    simpa using before earlier less
  · rw [List.getElem?_map, value] at atValue
    simpa using atValue

theorem bound_name_checked {name : Name Node} {symbol : Symbol}
    (bound : table.symbol? name.text = some symbol) :
    ((Expr.ident name).checkTarget table).value.type? = symbol.var.type? := by
  change ((recorded name.node (name.infer table .define)).value.bind singleType?) = _
  change (name.infer table .define).value.bind singleType? = _
  rw [name_infer_value, bound, Option.bind_some]
  cases symbol.var.type? <;> rfl

theorem check_targets_fitting {span : Span} {targets : List (Expr Node)} {value : Expr Node}
    {values : List Ty} (known : (value.infer table .read).value = some values)
    (fitting : assignmentErrors span (targets.mapM (Expr.checkTarget table)).value values = []) :
    (checkTargets table span targets value).value = targets.zip (values.map some) := by
  change targets.zip (targetTypes targets (value.infer table .read).value _) = _
  rw [known, Option.elim_some, fitting]
  rfl

-- Where an assignment reports nothing itself, values and targets fit pair by pair. Only a new name
-- that occurs again keeps the type of its first value, and is not compared with its other values.
theorem assignment_pairs_types (table : SymbolTable) (node : Node) (targets : List (Expr Node))
    (value : Expr Node) (values : List Ty) (known : (value.infer table .read).value = some values)
    (silent : ((Stmt.assign node targets value).check table).log.errors =
      (value.infer table .read).log.errors ++
        targets.flatMap fun target => (target.infer table target.targetMode).log.errors) :
    values.length = targets.length ∧
      ∀ (index : Nat) (target : Expr Node) (found type : Ty), targets[index]? = some target →
        values[index]? = some found →
        target.assignedType? table ((Stmt.assign node targets value).check table).value =
          some type →
        type.Receives found ∨
          ∃ name first, target = .ident name ∧ table.symbol? name.text = none ∧
            FirstNamed targets name.text first ∧ first < index ∧ values[first]? = some type := by
  rw [Stmt.check, checkAssignment] at silent ⊢
  rw [log_bind, Log.errors_append, check_targets_errors, known] at silent
  simp only [log_pure, Log.errors_empty, List.append_nil, Option.elim_some] at silent
  rw [← List.append_assoc] at silent
  have fitting := List.append_right_eq_self.mp silent
  obtain ⟨counts, fit⟩ := assignment_errors_silent fitting
  rw [value_mapM, List.length_map] at counts
  rw [value_mapM] at fit
  refine ⟨counts, fun index target found type atTarget atValue typed => ?_⟩
  have checked := fit index (target.checkTarget table).value found
    (by rw [List.getElem?_map, atTarget, Option.map_some]) atValue
  simp only [Expr.assignedType?] at typed
  cases bare : target.ident? with
  | none =>
      rw [bare] at typed
      exact Or.inl (receives_of_silent typed checked)
  | some name =>
      rw [bare] at typed
      cases ident_of_bare bare
      dsimp only at typed
      rw [value_bind, value_pure, check_targets_fitting known fitting] at typed
      cases bound : table.symbol? name.text with
      | some symbol =>
          have kept := declare_targets_type table (targets.zip (values.map some)) name.text
          obtain ⟨after, afterBound, afterType⟩ := Option.bind_eq_some_iff.mp typed
          rw [bound, Option.map_some, Option.some_or] at kept
          rw [afterBound, Option.map_some, afterType] at kept
          have same : symbol.var.type? = some type := (Option.some.inj kept).symm
          exact Or.inl (receives_of_silent ((bound_name_checked bound).trans same) checked)
      | none =>
          obtain ⟨first, firstNamed, atFirst⟩ := new_name_type bound typed
          have notAfter : first ≤ index := by
            by_contra later
            exact firstNamed.fresh index (by omega) _ atTarget (List.mem_singleton.mpr rfl)
          rcases Nat.eq_or_lt_of_le notAfter with same | before
          · rw [same, atValue] at atFirst
            cases Option.some.inj atFirst
            exact Or.inl (Or.inl (beq_self_eq_true found))
          · exact Or.inr ⟨name, first, rfl, bound, firstNamed, before, atFirst⟩

def pairTable : SymbolTable :=
  let name (text : String) : Name Node := ⟨⟨0, .origin⟩, text⟩
  let result (text : String) (type : Scalar) : ResultDecl Node :=
    ⟨⟨0, .origin⟩, name text, .scalar ⟨0, .origin⟩ type⟩
  let pair : RoutineDecl Node :=
    ⟨⟨0, .origin⟩, .function, name "pair", [], [result "a" .int, result "b" .float],
      ⟨⟨0, .origin⟩, []⟩⟩
  (pair.check .empty).value

def pairCall : Expr Node := .call ⟨0, .origin⟩ ⟨⟨1, .origin⟩, "pair"⟩ []

def bareTarget (text : String) : Expr Node := .ident ⟨⟨2, .origin⟩, text⟩

theorem pair_assigned_in_order :
    let targets := [bareTarget "x", bareTarget "y"]
    let assignment := Stmt.assign ⟨3, .origin⟩ targets pairCall
    let after := (assignment.check pairTable).value
    (pairCall.infer pairTable .read).value = some [.int, .float] ∧
      (assignment.check pairTable).log.errors =
        (pairCall.infer pairTable .read).log.errors ++
          (targets.flatMap fun target =>
            (target.infer pairTable target.targetMode).log.errors) ∧
      (bareTarget "y").assignedType? pairTable after = some .float ∧
      (Ty.float.Receives .float ∨
        ∃ name first, bareTarget "y" = .ident name ∧ pairTable.symbol? name.text = none ∧
          FirstNamed targets name.text first ∧ first < 1 ∧
            [Ty.int, Ty.float][first]? = some .float) := by
  have known : (pairCall.infer pairTable .read).value = some [.int, .float] := rfl
  obtain ⟨_, paired⟩ := assignment_pairs_types pairTable ⟨3, .origin⟩
    [bareTarget "x", bareTarget "y"] pairCall [.int, .float] known rfl
  exact ⟨known, rfl, rfl, paired 1 (bareTarget "y") .float .float rfl rfl rfl⟩

-- The name is an integer afterwards, and nothing is said about the second value.
theorem repeated_target_keeps_first :
    let targets := [bareTarget "x", bareTarget "x"]
    let assignment := Stmt.assign ⟨3, .origin⟩ targets pairCall
    (assignment.check pairTable).log.errors = [] ∧
      (pairCall.infer pairTable .read).value = some [.int, .float] ∧
      (bareTarget "x").assignedType? pairTable (assignment.check pairTable).value = some .int ∧
      ¬ Ty.int.Receives .float := by
  refine ⟨by decide +kernel, rfl, rfl, ?_⟩
  rintro (same | ⟨whole, part, target, value, _, component⟩)
  · exact absurd same (by decide)
  · cases target
    cases value
    cases component

end TensorLang
