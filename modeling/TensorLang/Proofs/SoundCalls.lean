import TensorLang.Proofs.SoundOperators
import TensorLang.Typing.Call

set_option autoImplicit false

namespace TensorLang

variable {table : SymbolTable} {limit : ℕ∞}

theorem argument_yields (operand : Operand) :
    operand.argument.Yields (table.rule limit) fun _ => True := by
  simp only [Operand.argument]
  split
  · exact Logged.yields_pure trivial
  · exact Logged.yields_pure trivial
  · exact Logged.yields_fail trivial trivial
  · exact Logged.yields_fail trivial trivial

theorem pass_argument_yields (operand : Operand) (parameter : Var) :
    (passArgument operand parameter).Yields (table.rule limit) fun _ => True := by
  refine Logged.yields_bind (argument_yields operand) fun found? _ => ?_
  split
  · exact Logged.yields_require trivial
  · exact Logged.yields_pure trivial

theorem check_arguments_yields (routine : Routine) (span : Span) (operands : List Operand) :
    (routine.checkArguments span operands).Yields (table.rule limit) fun _ => True := by
  simp only [Routine.checkArguments]
  split
  · exact Logged.yields_forM fun pair _ => pass_argument_yields pair.1 pair.2
  · exact Logged.yields_require trivial

theorem resolve_routine_yields (valid : table.WellFormed limit) (name : Name Node) :
    (name.resolveRoutine table).Yields (table.rule limit)
      (IfKnown fun routine => ∀ type ∈ routine.resultTypes,
        type.WellFormed table.elements limit) := by
  rw [name.resolve_routine_promised]
  cases found : table.routine? name.text with
  | none => exact Logged.yields_fail trivial ifKnown_none
  | some routine => exact Logged.yields_pure (ifKnown_some (valid.result found))

theorem result_outcome {routine : Routine}
    (valid : ∀ type ∈ routine.resultTypes, type.WellFormed table.elements limit) :
    Outcome.WellFormed table.elements limit (some routine.resultTypes) := by
  intro types known
  cases known
  exact valid

theorem call_yields (valid : table.WellFormed limit) (span : Span) (name : Name Node)
    {visits : List Visit} (visited : ∀ visit ∈ visits,
      visit.check.Yields (table.rule limit) (Outcome.WellFormed table.elements limit)) :
    (checkCall table span name visits).Yields (table.rule limit)
      (Outcome.WellFormed table.elements limit) := by
  have taken := Logged.yields_mapM fun visit (member : visit ∈ visits) =>
    operand_yields (visited visit member)
  refine Logged.yields_bind taken fun operands _ => ?_
  refine Logged.yields_bind (resolve_routine_yields valid name) fun routine? known => ?_
  cases routine? with
  | none => exact Logged.yields_pure Outcome.wellFormed_none
  | some routine =>
      refine Logged.yields_bind (check_arguments_yields routine span operands) fun _ _ => ?_
      exact Logged.yields_pure (result_outcome (known routine rfl))

theorem map_argument_yields {visit : Visit}
    (valid : visit.check.Yields (table.rule limit) (Outcome.WellFormed table.elements limit)) :
    visit.mapArgument.Yields (table.rule limit) fun _ => True := by
  refine Logged.yields_bind (operand_yields valid) fun operand _ => ?_
  exact Logged.yields_bind (argument_yields operand) fun _ _ => Logged.yields_pure trivial

theorem set_type_of_isSet {var : Var} (isSet : var.IsSet) :
    ∃ member endpoints, var.type? = some (.set member endpoints) ∧
      var.setType = .ok (member, endpoints) := by
  obtain ⟨member, endpoints, typed⟩ := isSet
  exact ⟨member, endpoints, typed, Var.set_type_promised typed⟩

-- The only defect that is left: a set of well-formed type can still have too many endpoints.
theorem neighbors_yields {endpoint : Var} {endpoints : List Var} (isSet : endpoint.IsSet)
    (few : endpoints.length < limit) :
    (neighbors endpoint endpoints).Yields (table.rule limit) fun _ => True := by
  obtain ⟨member, others, _, found⟩ := set_type_of_isSet isSet
  simp only [neighbors]
  rw [found, Logged.promised_ok, pure_bind]
  dsimp only
  by_cases fits : endpoints.length < UInt32.size
  · rw [if_pos fits]
    exact Logged.yields_pure trivial
  · rw [if_neg fits]
    have reached : (UInt32.size : ℕ∞) ≤ endpoints.length :=
      Nat.cast_le.mpr (Nat.le_of_not_lt fits)
    exact Logged.yields_promised (fun _ _ => trivial)
      fun _ _ => ⟨lt_of_le_of_lt reached few, trivial⟩

theorem map_arguments_yields (count : Nat) (span : Span) (partials : List MapArgument)
    {record : Ty} {endpoints : List Var}
    (valid : (Ty.set record endpoints).WellFormed table.elements limit) :
    (mapArguments count span partials record endpoints).Yields (table.rule limit)
      fun _ => True := by
  cases valid with
  | set record _ registered few sets deep =>
      cases endpoints with
      | nil => exact Logged.yields_pure trivial
      | cons endpoint rest =>
          unfold mapArguments
          dsimp only
          split
          · exact Logged.yields_pure trivial
          · exact Logged.yields_bind (neighbors_yields (sets endpoint (by simp)) few)
              fun _ _ => Logged.yields_pure trivial

theorem check_map_arguments_yields (routine : Routine) (span : Span)
    (arguments : List MapArgument) :
    (routine.checkMapArguments span arguments).Yields (table.rule limit) fun _ => True := by
  simp only [Routine.checkMapArguments]
  by_cases counts : arguments.length = routine.parameters.length
  · rw [if_pos counts]
    refine Logged.yields_forM fun pair _ => ?_
    dsimp only [Routine.passMapArgument]
    split
    · exact Logged.yields_require trivial
    · exact Logged.yields_pure trivial
  · rw [if_neg counts]
    exact Logged.yields_report trivial

theorem check_over_yields (routine : Routine) (span targetSpan : Span)
    (partials : List MapArgument) {target : Var}
    (proper : target.WellFormedSet table.elements limit) :
    (routine.checkOver span targetSpan partials target).Yields (table.rule limit)
      fun _ => True := by
  obtain ⟨member, endpoints, typed, found⟩ := set_type_of_isSet proper.1
  simp only [Routine.checkOver]
  rw [found, Logged.promised_ok, pure_bind]
  have passed := map_arguments_yields routine.parameters.length targetSpan partials
    (proper.2 _ typed)
  refine Logged.yields_bind passed fun arguments _ => ?_
  exact check_map_arguments_yields routine span arguments

theorem map_yields (valid : table.WellFormed limit) (span : Span) (name : Name Node)
    {visits : List Visit} (target : Name Node) (visited : ∀ visit ∈ visits,
      visit.check.Yields (table.rule limit) (Outcome.WellFormed table.elements limit)) :
    (checkMap table span name visits target).Yields (table.rule limit)
      (Outcome.WellFormed table.elements limit) := by
  have passed := Logged.yields_mapM fun visit (member : visit ∈ visits) =>
    map_argument_yields (visited visit member)
  refine Logged.yields_bind passed fun partials _ => ?_
  refine Logged.yields_bind (resolve_routine_yields valid name) fun routine? known => ?_
  refine Logged.yields_bind (resolve_set_yields valid _ target) fun target? proper => ?_
  cases routine? with
  | none => exact Logged.yields_pure Outcome.wellFormed_none
  | some routine =>
      have results := result_outcome (known routine rfl)
      cases target? with
      | none => exact Logged.yields_pure results
      | some set =>
          have mapped := check_over_yields routine span target.node.span partials (proper set rfl)
          refine Logged.yields_bind mapped fun _ _ => ?_
          exact Logged.yields_pure results

end TensorLang
