import TensorLang.Proofs.Dressing

set_option autoImplicit false

namespace TensorLang

open Logged

variable {first second : SymbolTable} {layout : List Wrapping}

theorem forall₂_eq {α : Type} {items others : List α} (same : List.Forall₂ Eq items others) :
    others = items := by
  rw [List.forall₂_eq_eq_eq] at same
  exact same.symm

theorem operands_twins {visits others : List Visit}
    (paired : Paired Visit.Wraps layout visits others) :
    (visits.mapM Visit.operand).Twins (fun operands copies => copies = operands) layout
      (others.mapM Visit.operand) :=
  (twins_mapM paired fun _ _ _ => operand_twins).weaken fun _ _ => forall₂_eq

theorem routine_found {routines others : List Routine}
    (related : List.Forall₂ Routine.Wraps routines others) (name : String) :
    Option.Rel Routine.Wraps (routines.find? (·.name == name)) (others.find? (·.name == name)) := by
  induction related with
  | nil => exact .none
  | @cons routine other _ _ head _ ih =>
      have same : other.name = routine.name := by cases head <;> rfl
      rw [List.find?_cons, List.find?_cons, same]
      cases routine.name == name with
      | true => exact .some head
      | false => exact ih

theorem resolve_routine_twins (wraps : first.Wraps second) (name : Name Node) :
    (name.resolveRoutine first).Twins (Option.Rel Routine.Wraps) []
      (name.resolveRoutine second) := by
  obtain ⟨routines, rfl, related⟩ := wraps
  rw [name.resolve_routine_promised, name.resolve_routine_promised]
  simp only [SymbolTable.routine?]
  have both := rel_cases (routine_found related name.text)
  rcases both with ⟨found, copied⟩ | ⟨_, _, found, copied, head⟩
  · rw [found, copied]
    exact twins_self .none rfl []
  · rw [found, copied]
    exact twins_pure (.some head)

-- A rule does not look at the body of a routine.
theorem checked_call_twins {routine other : Routine} (related : routine.Wraps other) (span : Span)
    (operands : List Operand) :
    (do
      routine.checkArguments span operands
      return some routine.resultTypes : Logged Outcome).Twins Eq []
    (do
      other.checkArguments span operands
      return some other.resultTypes : Logged Outcome) := by
  apply twins_same
  · cases related <;> rfl
  · exact (entries_bind_pure _ _).trans
      (Log.View.entries.part_check_arguments ..)

theorem call_twins (wraps : first.Wraps second) (span : Span) (name : Name Node)
    {visits others : List Visit} (paired : Paired Visit.Wraps layout visits others) :
    (checkCall first span name visits).Twins Eq layout (checkCall second span name others) := by
  refine twins_then (operands_twins paired) fun operands copies same => ?_
  rw [same]
  refine twins_then (resolve_routine_twins wraps name) fun routine? other? related => ?_
  cases related with
  | none => exact twins_pure rfl
  | some head => exact checked_call_twins head span operands

theorem map_argument_twins {visit other : Visit} (wraps : Visit.Wraps layout visit other) :
    visit.mapArgument.Twins Eq layout other.mapArgument := by
  refine twins_then (operand_twins wraps) fun operand copy same => ?_
  rw [same]
  refine twins_self rfl ?_ []
  exact (entries_bind_pure _ _).trans
    (Log.View.entries.part_argument copy)

theorem checked_map_twins {routine other : Routine} (related : routine.Wraps other)
    (span targetSpan : Span) (partials : List MapArgument) (target : Var) :
    (do
      routine.checkOver span targetSpan partials target
      return some routine.resultTypes : Logged Outcome).Twins Eq []
    (do
      other.checkOver span targetSpan partials target
      return some other.resultTypes : Logged Outcome) := by
  apply twins_same
  · cases related <;> rfl
  · exact (entries_bind_pure _ _).trans
      (Log.View.entries.part_check_over ..)

theorem resolve_set_same (wraps : first.Wraps second) (wrong : Ty → Mismatch) (name : Name Node) :
    name.resolveSet second wrong = name.resolveSet first wrong := by
  rw [name.resolve_set_promised, name.resolve_set_promised, wraps.symbol?]

theorem map_twins (wraps : first.Wraps second) (span : Span) (name target : Name Node)
    {visits others : List Visit} (paired : Paired Visit.Wraps layout visits others) :
    (checkMap first span name visits target).Twins Eq layout
      (checkMap second span name others target) := by
  have partials := (twins_mapM paired fun _ _ _ => map_argument_twins).weaken
    fun _ _ => forall₂_eq
  refine twins_then partials fun arguments copies same => ?_
  rw [same]
  refine twins_then (resolve_routine_twins wraps name) fun routine? other? related => ?_
  rw [resolve_set_same wraps]
  refine twins_after (Log.View.entries.part_resolve_set ..) fun target? => ?_
  cases related with
  | none => exact twins_pure rfl
  | @some routine other head =>
      cases target? with
      | none => exact twins_same (by cases head <;> rfl) rfl []
      | some set => exact checked_map_twins head span target.node.span arguments set

theorem read_axis_twins {position other : Position} (wraps : Position.Wraps layout position other)
    (axis : Axis Var) (leading : IndexSet Var) :
    (position.readAxis axis leading).Twins Eq layout (other.readAxis axis leading) := by
  cases wraps with
  | slice span => exact twins_self rfl rfl []
  | «at» inside =>
      refine twins_then (operand_twins inside) fun operand copy same => ?_
      rw [same]
      refine twins_self rfl ?_ []
      exact (entries_bind_pure _ _).trans
        (Log.View.entries.part_check_index leading copy)

theorem steps_twins {positions others : List Position}
    (paired : Paired Position.Wraps layout positions others)
    (axes : List (Axis Var × IndexSet Var)) :
    let readStep (step : Position × Axis Var × IndexSet Var) := step.1.readAxis step.2.1 step.2.2
    ((positions.zip axes).mapM readStep).Twins Eq layout ((others.zip axes).mapM readStep) := by
  intro readStep
  induction paired generalizing axes with
  | nil => exact twins_pure rfl
  | @cons early late _ _ _ _ head _ ih =>
      cases axes with
      | nil =>
          rw [List.zip_nil_right, List.zip_nil_right]
          exact twins_self rfl rfl _
      | cons axis rest =>
          rw [List.zip_cons_cons, List.zip_cons_cons, List.mapM_cons, List.mapM_cons]
          refine twins_bind (read_axis_twins head axis.1 axis.2) fun kept copy same => ?_
          refine twins_then (ih rest) fun values copies sameValues => ?_
          rw [same, sameValues]
          exact twins_pure rfl

theorem positions_kinds {positions others : List Position}
    (paired : Paired Position.Wraps layout positions others) :
    others.map Position.isIndex = positions.map Position.isIndex := by
  induction paired with
  | nil => rfl
  | cons head _ ih =>
      rw [List.map_cons, List.map_cons, ih]
      cases head <;> rfl

theorem last_kind {positions others : List Position}
    (paired : Paired Position.Wraps layout positions others) :
    others.getLast?.any Position.isIndex = positions.getLast?.any Position.isIndex := by
  have lasts := congrArg List.getLast? (positions_kinds paired)
  rw [List.getLast?_map, List.getLast?_map] at lasts
  have known := congrArg (Option.any id) lasts
  rw [Option.any_map, Option.any_map] at known
  exact known

theorem tensor_read_twins (tensor : TensorType Var) (span : Span)
    {positions others : List Position} (paired : Paired Position.Wraps layout positions others) :
    (tensor.checkRead span positions).Twins Eq layout (tensor.checkRead span others) := by
  simp only [TensorType.checkRead]
  rw [paired_length paired, last_kind paired]
  by_cases counts : tensor.order = positions.length
  · rw [if_pos counts, if_pos counts]
    refine twins_then (steps_twins paired _) fun kept copies same => ?_
    rw [same]
    exact twins_pure rfl
  · rw [if_neg counts, if_neg counts]
    exact twins_self rfl rfl layout

-- Only a single position of a tuple is visited.
theorem tuple_read_twins (span : Span) {positions others : List Position}
    (paired : Paired Position.Wraps layout positions others) :
    (checkTupleRead span positions).Twins (fun _ _ => True) layout
      (checkTupleRead span others) := by
  cases paired with
  | nil => exact twins_self trivial rfl []
  | cons head tail =>
      cases tail with
      | nil =>
          cases head with
          | slice span => exact twins_self trivial rfl _
          | «at» inside =>
              rw [List.append_nil]
              refine twins_then (operand_twins inside) fun operand copy same => ?_
              rw [same]
              exact twins_self trivial (Log.View.entries.part_expect ..) []
      | cons next rest =>
          have length := paired_length rest
          cases head <;> cases next <;> simp only [checkTupleRead, List.length_cons, length] <;>
            exact twins_self trivial rfl _

theorem read_twins (span : Span) (base : Operand) {positions others : List Position}
    (paired : Paired Position.Wraps layout positions others) :
    (checkRead span base positions).Twins Eq layout (checkRead span base others) := by
  obtain ⟨baseSpan, types?⟩ := base
  match types? with
  | none => exact twins_self rfl rfl layout
  | some [.tensor shape] => exact tensor_read_twins shape span paired
  | some [.tuple member length] =>
      exact twins_then (tuple_read_twins span paired) fun _ _ _ => twins_pure rfl
  | some [.set ..] | some [.element _] | some [] => exact twins_self rfl rfl layout
  | some (one :: another :: rest) => cases one <;> exact twins_self rfl rfl layout

end TensorLang
