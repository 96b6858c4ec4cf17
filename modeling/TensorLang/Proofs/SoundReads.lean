import TensorLang.Proofs.SoundCalls
import TensorLang.Typing.Read

set_option autoImplicit false

namespace TensorLang

variable {table : SymbolTable} {limit : ℕ∞}

theorem outer_proper {tensor : TensorType Var}
    (regular : tensor.Regular (Var.WellFormedSet table.elements limit)) {leading : IndexSet Var}
    (member : leading ∈ tensor.outer) (var : Var) (same : leading = .set var) :
    var.WellFormedSet table.elements limit := by
  obtain ⟨axis, axisMember, first⟩ := List.mem_filterMap.mp member
  exact regular.sets axis axisMember var (same ▸ List.mem_of_mem_head? first)

theorem check_index_yields (leading : IndexSet Var) (operand : Operand)
    (proper : ∀ var, leading = .set var → var.WellFormedSet table.elements limit) :
    (operand.checkIndex leading).Yields (table.rule limit) fun _ => True := by
  simp only [Operand.checkIndex]
  split
  · exact Logged.yields_pure trivial
  · cases leading with
    | range size => exact Logged.yields_require trivial
    | dynamic => exact Logged.yields_pure trivial
    | set members =>
        obtain ⟨member, endpoints, _, found⟩ := set_type_of_isSet (proper members rfl).1
        unfold IndexSet.checkIndex
        dsimp only
        rw [found, Logged.promised_ok, pure_bind]
        exact Logged.yields_require trivial
  · exact Logged.yields_report trivial
  · exact Logged.yields_report trivial

theorem read_axis_yields {axes : List (Axis Var)} {axis : Axis Var} {leading : IndexSet Var}
    {position : Position} (member : axis ∈ axes)
    (proper : ∀ var, leading = .set var → var.WellFormedSet table.elements limit)
    (visited : ∀ visit, position = .at visit →
      visit.check.Yields (table.rule limit) (Outcome.WellFormed table.elements limit)) :
    (position.readAxis axis leading).Yields (table.rule limit) (IfKnown (· ∈ axes)) := by
  cases position with
  | slice span => exact Logged.yields_pure (ifKnown_some member)
  | «at» visit =>
      refine Logged.yields_bind (operand_yields (visited visit rfl)) fun operand _ => ?_
      refine Logged.yields_bind (check_index_yields leading operand proper) fun _ _ => ?_
      exact Logged.yields_pure ifKnown_none

theorem tensor_read_yields (span : Span) {tensor : TensorType Var} {positions : List Position}
    (regular : tensor.Regular (Var.WellFormedSet table.elements limit))
    (visited : ∀ visit, Position.at visit ∈ positions →
      visit.check.Yields (table.rule limit) (Outcome.WellFormed table.elements limit)) :
    (tensor.checkRead span positions).Yields (table.rule limit)
      (Outcome.WellFormed table.elements limit) := by
  simp only [TensorType.checkRead]
  by_cases counts : tensor.order = positions.length
  · rw [if_pos counts]
    have step : ∀ step ∈ positions.zip (tensor.axes.zip tensor.outer),
        (step.1.readAxis step.2.1 step.2.2).Yields (table.rule limit)
          (IfKnown (· ∈ tensor.axes)) := by
      intro step member
      obtain ⟨positionMember, axisMember⟩ := List.of_mem_zip member
      obtain ⟨axisMember, leadingMember⟩ := List.of_mem_zip axisMember
      exact read_axis_yields axisMember (outer_proper regular leadingMember)
        fun visit same => visited visit (same ▸ positionMember)
    refine Logged.yields_bind (Logged.yields_mapM step) fun kept known => ?_
    refine Logged.yields_pure (outcome_tensor ?_)
    refine TensorType.readKeeping_regular regular _ _ fun axis member => ?_
    obtain ⟨axis?, axisMember, same⟩ := List.mem_filterMap.mp member
    exact known axis? axisMember axis same
  · rw [if_neg counts]
    exact Logged.yields_fail trivial Outcome.wellFormed_none

theorem tuple_read_yields (span : Span) {positions : List Position}
    (visited : ∀ visit, Position.at visit ∈ positions →
      visit.check.Yields (table.rule limit) (Outcome.WellFormed table.elements limit)) :
    (checkTupleRead span positions).Yields (table.rule limit) fun _ => True := by
  simp only [checkTupleRead]
  split
  · exact Logged.yields_bind (operand_yields (visited _ (by simp)))
      fun operand _ => expect_yields _ _ operand
  · exact Logged.yields_report trivial
  · exact Logged.yields_report trivial

theorem read_yields (span : Span) {base : Operand} {positions : List Position}
    (valid : base.types?.WellFormed table.elements limit)
    (visited : ∀ visit, Position.at visit ∈ positions →
      visit.check.Yields (table.rule limit) (Outcome.WellFormed table.elements limit)) :
    (checkRead span base positions).Yields (table.rule limit)
      (Outcome.WellFormed table.elements limit) := by
  simp only [checkRead]
  split
  · exact Logged.yields_pure Outcome.wellFormed_none
  · rename_i shape typed
    exact tensor_read_yields span
      (Ty.wellFormed_tensor.mp (Outcome.WellFormed.single valid typed)) visited
  · rename_i member length typed
    refine Logged.yields_bind (tuple_read_yields span visited) fun _ _ => ?_
    cases Outcome.WellFormed.single valid typed with
    | tuple record _ registered _ =>
        exact Logged.yields_pure (Outcome.wellFormed_one (.element record registered))
  · exact Logged.yields_fail trivial Outcome.wellFormed_none
  · exact Logged.yields_fail trivial Outcome.wellFormed_none

-- What a field is read of: if it is a bare name, then its type is that of the symbol.
def Operand.Names (table : SymbolTable) (set? : Option (Name Node)) (base : Operand) : Prop :=
  ∀ name type, set? = some name → base.types? = some [type] →
    ∃ symbol, table.symbol? name.text = some symbol ∧ symbol.var.type? = some type

theorem leading_set_yields {base : Operand} {set? : Option (Name Node)}
    (names : base.Names table set?) {member : Ty} {endpoints : List Var}
    (typed : base.types? = some [.set member endpoints])
    (valid : (Ty.set member endpoints).WellFormed table.elements limit) :
    (leadingSet table set?).Yields (table.rule limit)
      (IfKnown fun leading => ∀ var, leading = .set var →
        var.WellFormedSet table.elements limit) := by
  cases set? with
  | none => exact Logged.yields_pure (ifKnown_some fun var same => (nomatch same))
  | some name =>
      obtain ⟨symbol, found, known⟩ := names name _ rfl typed
      unfold leadingSet SymbolTable.symbol
      dsimp only
      rw [found, Logged.promised_ok, pure_bind]
      refine Logged.yields_pure (ifKnown_some fun var same => ?_)
      rw [← IndexSet.set.inj same]
      refine ⟨⟨member, endpoints, known⟩, fun type same => ?_⟩
      exact Option.some.inj (known.symm.trans same) ▸ valid

theorem check_field_name_yields (valid : table.WellFormed limit) {record : Element}
    (registered : record.Registered table.elements) (name : Name Node) :
    (record.checkField name).Yields (table.rule limit)
      (IfKnown fun field => field.type.WellFormed table.elements limit) := by
  simp only [Element.checkField]
  cases found : record.field? name.text with
  | none => exact Logged.yields_fail trivial ifKnown_none
  | some field => exact Logged.yields_pure (ifKnown_some (valid.field registered found))

theorem tensor_of_view {type : Ty} {shape : TensorType Var} (view : type.tensor? = some shape) :
    type = .tensor shape := by
  cases type with
  | tensor found => rw [Option.some.inj view]
  | set member endpoints => exact (nomatch view)
  | tuple member length => exact (nomatch view)
  | element record => exact (nomatch view)

theorem field_of_members_yields (span : Span) {base : Operand} {set? : Option (Name Node)}
    {field : Field} (names : base.Names table set?) {member : Ty} {endpoints : List Var}
    (typed : base.types? = some [.set member endpoints])
    (valid : (Ty.set member endpoints).WellFormed table.elements limit)
    (fieldValid : field.type.WellFormed table.elements limit) :
    (field.ofMembers table span set?).Yields (table.rule limit)
      (Outcome.WellFormed table.elements limit) := by
  simp only [Field.ofMembers]
  split
  · rename_i shape vector
    refine Logged.yields_bind (leading_set_yields names typed valid) fun leading? proper => ?_
    refine Logged.yields_pure (outcome_of_tensor fun whole known => ?_)
    obtain ⟨leading, found, rfl⟩ := Option.map_eq_some_iff.mp known
    apply TensorType.overSet_regular (proper leading found)
    rw [tensor_of_view (Option.filter_eq_some_iff.mp vector).1] at fieldValid
    exact Ty.wellFormed_tensor.mp fieldValid
  · exact Logged.yields_fail trivial Outcome.wellFormed_none

theorem field_yields (valid : table.WellFormed limit) (span : Span) {base : Operand}
    {set? : Option (Name Node)} (name : Name Node) (names : base.Names table set?)
    (baseValid : base.types?.WellFormed table.elements limit) :
    (checkField table span base set? name).Yields (table.rule limit)
      (Outcome.WellFormed table.elements limit) := by
  simp only [checkField]
  split
  · exact Logged.yields_pure Outcome.wellFormed_none
  · rename_i record typed
    cases Outcome.WellFormed.single baseValid typed with
    | element _ registered =>
        have looked := check_field_name_yields valid registered name
        refine Logged.yields_bind looked fun field? known => ?_
        refine Logged.yields_pure (Outcome.wellFormed_ofType fun type same => ?_)
        obtain ⟨field, found, rfl⟩ := Option.map_eq_some_iff.mp same
        exact known field found
  · rename_i member endpoints typed
    have setValid := Outcome.WellFormed.single baseValid typed
    cases setValid with
    | set record _ registered few sets deep =>
        change (Logged.promised (.ok record) >>= _).Yields _ _
        rw [Logged.promised_ok, pure_bind]
        have looked := check_field_name_yields valid registered name
        refine Logged.yields_bind looked fun field? known => ?_
        cases field? with
        | none => exact Logged.yields_pure Outcome.wellFormed_none
        | some field =>
            exact field_of_members_yields span names typed
              (.set record endpoints registered few sets deep) (known field rfl)
  · exact Logged.yields_fail trivial Outcome.wellFormed_none
  · exact Logged.yields_fail trivial Outcome.wellFormed_none

end TensorLang
