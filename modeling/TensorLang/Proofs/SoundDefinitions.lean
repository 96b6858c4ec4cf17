import TensorLang.Proofs.SoundStmts

set_option autoImplicit false

namespace TensorLang

variable {table : SymbolTable} {limit : ℕ∞}

-- Whatever was well formed before is so after: the elements that were registered stay.
structure SymbolTable.Grows (limit : ℕ∞) (before after : SymbolTable) : Prop where
  valid : after.WellFormed limit
  elements : before.elements <+: after.elements

theorem SymbolTable.Grows.of_elements {before after : SymbolTable}
    (valid : after.WellFormed limit) (same : after.elements = before.elements) :
    before.Grows limit after :=
  ⟨valid, same ▸ List.prefix_refl _⟩

theorem obeys_grown {before after : SymbolTable} {log : Log}
    (known : log.Obeys (before.rule limit)) (grown : before.elements <+: after.elements) :
    log.Obeys (after.rule limit) :=
  ⟨fun _ _ => trivial,
    fun entry member type typed => (known.entries entry member type typed).mono grown,
    known.defects⟩

theorem registered_wellFormed {changed : SymbolTable} (valid : table.WellFormed limit)
    (scopes : changed.scopes = table.scopes) (grown : table.elements <+: changed.elements)
    (routines : ∀ routine ∈ changed.routines, routine ∈ table.routines ∨
      ∀ var ∈ routine.parameters ++ routine.results, ∀ type, var.type? = some type →
        type.WellFormed table.elements limit)
    (fields : ∀ record ∈ changed.elements, record ∈ table.elements ∨
      ∀ field ∈ record.fields, field.type.WellFormed table.elements limit) :
    changed.WellFormed limit := by
  intro type held
  refine Ty.WellFormed.mono ?_ grown
  cases held with
  | symbol scope live symbol member type typed =>
      rw [scopes] at live
      exact valid type (.symbol scope live symbol member type typed)
  | parameter routine known var member type typed =>
      rcases routines routine known with old | new
      · exact valid type (.parameter routine old var member type typed)
      · exact new var (List.mem_append_left _ member) type typed
  | result routine known var member type typed =>
      rcases routines routine known with old | new
      · exact valid type (.result routine old var member type typed)
      · exact new var (List.mem_append_right _ member) type typed
  | field record known field member =>
      rcases fields record known with old | new
      · exact valid field.type (.field record old field member)
      · exact new field member

theorem add_element_wellFormed (valid : table.WellFormed limit) (record : Element)
    (fields : ∀ field ∈ record.fields, field.type.WellFormed table.elements limit) :
    SymbolTable.WellFormed limit { table with elements := table.elements ++ [record] } := by
  refine registered_wellFormed valid rfl (List.prefix_append ..)
    (fun routine known => Or.inl known) fun other known => ?_
  rcases List.mem_append.mp known with old | new
  · exact Or.inl old
  · rw [List.mem_singleton.mp new]
    exact Or.inr fields

theorem add_routine_wellFormed (valid : table.WellFormed limit) (routine : Routine)
    (vars : ∀ var ∈ routine.parameters ++ routine.results, ∀ type, var.type? = some type →
      type.WellFormed table.elements limit) :
    SymbolTable.WellFormed limit { table with routines := table.routines ++ [routine] } := by
  refine registered_wellFormed valid rfl (List.prefix_refl _) (fun other known => ?_)
    fun record known => Or.inl known
  rcases List.mem_append.mp known with old | new
  · exact Or.inl old
  · rw [List.mem_singleton.mp new]
    exact Or.inr vars

theorem check_fields_yields (valid : table.WellFormed limit) (declared : List String)
    (fields : List (FieldDecl Node))
    (few : ∀ field ∈ fields, field.type.endpoints.length < limit) :
    (checkFields table declared fields).Yields (table.rule limit) fun kept =>
      ∀ field ∈ kept, field.type.WellFormed table.elements limit := by
  induction fields generalizing declared with
  | nil => exact Logged.yields_pure fun _ member => (nomatch member)
  | cons field rest ih =>
      have later := fun declared => ih declared fun other member => few other (by simp [member])
      have written := type_expr_resolve_yields valid field.type (few field (by simp))
      refine Logged.yields_bind written fun type? known => ?_
      dsimp only
      by_cases repeated : declared.contains field.name.text = true
      · rw [if_pos repeated]
        exact Logged.yields_bind (Logged.yields_report trivial) fun _ _ => later declared
      · rw [if_neg repeated]
        refine Logged.yields_bind (later _) fun kept keptValid => ?_
        cases type? with
        | none => exact Logged.yields_pure keptValid
        | some type =>
            refine Logged.yields_pure fun other member => ?_
            rcases List.mem_cons.mp member with same | old
            · rw [same]
              exact known type rfl
            · exact keptValid other old

theorem element_yields (valid : table.WellFormed limit) (declaration : ElementDecl Node)
    (few : ∀ field ∈ declaration.fields, field.type.endpoints.length < limit) :
    (declaration.check table).Yields (table.rule limit) (table.Grows limit) := by
  have declared := check_fields_yields valid [] declaration.fields few
  refine Logged.yields_bind declared fun fields known => ?_
  cases free : table.element? declaration.name.text with
  | some record =>
      refine Logged.yields_bind (Logged.yields_report trivial) fun _ _ => ?_
      exact Logged.yields_pure (.of_elements valid rfl)
  | none =>
      dsimp only
      rw [SymbolTable.add_element_free ⟨declaration.name.text, fields⟩ free,
        SymbolTable.registering_ok]
      exact Logged.yields_pure ⟨add_element_wellFormed valid _ known, List.prefix_append ..⟩

theorem external_yields (valid : table.WellFormed limit) (declaration : ExternalDecl Node)
    (few : declaration.type.endpoints.length < limit) :
    (declaration.check table).Yields (table.rule limit) (table.Grows limit) := by
  have written := type_expr_resolve_yields valid declaration.type few
  refine Logged.yields_bind written fun type? known => ?_
  dsimp only
  cases table.symbol? declaration.name.text with
  | some symbol =>
      refine Logged.yields_bind (Logged.yields_report trivial) fun _ _ => ?_
      exact Logged.yields_pure (.of_elements valid rfl)
  | none =>
      have bound := valid.bind declaration.name.text .readWrite known
      exact Logged.yields_pure (.of_elements bound (table.elements_bind ..))

structure SlotsValid (limit : ℕ∞) (elements : List Element)
    (bound : SymbolTable × List (Option Var)) : Prop where
  valid : bound.1.WellFormed limit
  kept : bound.1.elements = elements
  vars : ∀ var? ∈ bound.2, IfKnown (fun var : Var => ∀ type, var.type? = some type →
    type.WellFormed elements limit) var?

theorem SlotsValid.cons {elements : List Element} {bound : SymbolTable × List (Option Var)}
    (later : SlotsValid limit elements bound) {first? : Option Var}
    (first : IfKnown (fun var : Var => ∀ type, var.type? = some type →
      type.WellFormed elements limit) first?) :
    SlotsValid limit elements (bound.1, first? :: bound.2) := by
  refine ⟨later.valid, later.kept, fun var? member => ?_⟩
  rcases List.mem_cons.mp member with same | old
  · rw [same]
    exact first
  · exact later.vars var? old

theorem bind_slots_yields (valid : table.WellFormed limit) (slots : List Slot)
    (few : ∀ slot ∈ slots, slot.type.endpoints.length < limit) :
    (bindSlots table slots).Yields (table.rule limit) (SlotsValid limit table.elements) := by
  induction slots generalizing table with
  | nil => exact Logged.yields_pure ⟨valid, rfl, fun _ member => (nomatch member)⟩
  | cons slot rest ih =>
      have fewRest : ∀ other ∈ rest, other.type.endpoints.length < limit :=
        fun other member => few other (by simp [member])
      have written := type_expr_resolve_yields valid slot.type (few slot (by simp))
      refine Logged.yields_bind written fun type? known => ?_
      cases type? with
      | none =>
          refine Logged.yields_bind (ih valid fewRest) fun bound later => ?_
          exact Logged.yields_pure (later.cons ifKnown_none)
      | some type =>
          have next := ih (valid.bind slot.name slot.access known) fewRest
          have same := table.elements_bind slot.name (some type) slot.access
          rw [rule_of_elements same, same] at next
          refine Logged.yields_bind next fun bound later => ?_
          exact Logged.yields_pure (later.cons (ifKnown_some known))

theorem register_yields {inner : SymbolTable} (kept : inner.elements = table.elements)
    (valid : inner.WellFormed limit) (declaration : RoutineDecl Node)
    (parameters results : List (Option Var))
    (typed : ∀ var? ∈ parameters ++ results, IfKnown (fun var : Var => ∀ type,
      var.type? = some type → type.WellFormed table.elements limit) var?) :
    (declaration.register inner parameters results).Yields (table.rule limit)
      (table.Grows limit) := by
  have same : table.Grows limit inner := .of_elements valid kept
  unfold RoutineDecl.register
  dsimp only
  cases allParameters : allPresent parameters with
  | none => exact Logged.yields_pure same
  | some parameterVars =>
      cases allResults : allPresent results with
      | none => exact Logged.yields_pure same
      | some resultVars =>
          cases free : inner.routine? declaration.name.text with
          | some routine =>
              dsimp only
              refine Logged.yields_bind (Logged.yields_report trivial) fun _ _ => ?_
              exact Logged.yields_pure same
          | none =>
              let routine : Routine :=
                ⟨declaration.name.text, parameterVars, resultVars, .declared declaration.body⟩
              dsimp only
              rw [SymbolTable.add_routine_free routine free,
                SymbolTable.registering_ok]
              apply Logged.yields_pure
              refine .of_elements (add_routine_wellFormed valid routine ?_) kept
              intro var member
              rw [kept]
              rw [allPresent_eq_some allParameters, allPresent_eq_some allResults] at typed
              exact typed (some var) (by simpa using member) var rfl

theorem routine_yields (valid : table.WellFormed limit) (declaration : RoutineDecl Node)
    (few : ∀ written ∈ (Definition.routine declaration).annotations,
      written.endpoints.length < limit) :
    (declaration.check table).Yields (table.rule limit) (table.Grows limit) := by
  simp only [Definition.annotations, List.forall_mem_append, List.forall_mem_map] at few
  obtain ⟨⟨fewParameters, fewResults⟩, fewBody⟩ := few
  have parameters := bind_slots_yields valid.push (declaration.parameters.map ParameterDecl.slot)
    (List.forall_mem_map.mpr fewParameters)
  apply Logged.yields_bind_value parameters
  have results := bind_slots_yields parameters.value.valid
    (declaration.results.map ResultDecl.slot) (List.forall_mem_map.mpr fewResults)
  rw [rule_of_elements parameters.value.kept, parameters.value.kept] at results
  apply Logged.yields_bind_value results
  have body := block_yields results.value.valid declaration.body fewBody
  rw [rule_of_elements results.value.kept] at body
  apply Logged.yields_bind_value body
  have kept : (declaration.body.check _).value.pop.elements = table.elements :=
    (block_registries _ declaration.body).elements.trans results.value.kept
  refine register_yields kept body.value.pop declaration _ _ fun var? member => ?_
  rcases List.mem_append.mp member with parameter | result
  · exact parameters.value.vars var? parameter
  · exact results.value.vars var? result

theorem definition_yields (valid : table.WellFormed limit) (definition : Definition Node)
    (few : ∀ written ∈ definition.annotations, written.endpoints.length < limit) :
    (definition.check table).Yields (table.rule limit) (table.Grows limit) := by
  cases definition with
  | element declaration =>
      refine element_yields valid declaration fun field member => ?_
      exact few field.type (List.mem_map_of_mem member)
  | external declaration =>
      exact external_yields valid declaration
        (few declaration.type (by simp [Definition.annotations]))
  | routine declaration => exact routine_yields valid declaration few
  | constant declaration =>
      have checked := declaration_yields valid .constant declaration
        (few declaration.type (by simp [Definition.annotations]))
      have kept := (declaration_registries table .constant declaration).elements
      exact ⟨.of_elements checked.value kept, checked.log⟩
  | test declaration => exact Logged.yields_pure (.of_elements valid rfl)

theorem definitions_sound (valid : table.WellFormed limit) (definitions : List (Definition Node))
    (few : ∀ written ∈ definitions.flatMap Definition.annotations,
      written.endpoints.length < limit) :
    table.Grows limit (checkDefinitions table definitions).value ∧
      (checkDefinitions table definitions).log.Obeys
        ((checkDefinitions table definitions).value.rule limit) := by
  induction definitions generalizing table with
  | nil => exact ⟨.of_elements valid rfl, Log.empty_obeys _⟩
  | cons definition rest ih =>
      simp only [List.flatMap_cons, List.forall_mem_append] at few
      have first := definition_yields valid definition few.1
      obtain ⟨grown, obeys⟩ := ih first.value.valid few.2
      refine ⟨⟨grown.valid, first.value.elements.trans grown.elements⟩, ?_⟩
      exact Log.append_obeys _ _ _
        (obeys_grown first.log (first.value.elements.trans grown.elements)) obeys

theorem intrinsic_typed (firstVar : Nat) (intrinsics : List Intrinsic) :
    ∀ routine ∈ Intrinsic.routines firstVar intrinsics,
      ∀ var ∈ routine.parameters ++ routine.results,
        ∃ component, var.type? = some (.ofScalar component) := by
  induction intrinsics generalizing firstVar with
  | nil => exact fun _ member => (nomatch member)
  | cons intrinsic rest ih =>
      intro routine member var varMember
      rcases List.mem_cons.mp member with same | later
      · subst same
        rcases List.mem_append.mp varMember with parameter | result
        · obtain ⟨index, _, rfl⟩ := List.mem_mapIdx.mp parameter
          exact ⟨_, rfl⟩
        · rw [List.mem_singleton.mp result]
          exact ⟨_, rfl⟩
      · exact ih _ routine later var varMember

theorem empty_wellFormed : SymbolTable.empty.WellFormed limit := by
  intro type held
  cases held with
  | symbol scope live symbol member type typed =>
      rw [List.mem_singleton.mp live] at member
      exact (nomatch member)
  | parameter routine known => exact (nomatch known)
  | result routine known => exact (nomatch known)
  | field record known => exact (nomatch known)

theorem initial_wellFormed (intrinsics : Bool) :
    ∃ table, SymbolTable.initial intrinsics = .ok table ∧ table.WellFormed limit := by
  cases intrinsics with
  | false => exact ⟨_, rfl, empty_wellFormed⟩
  | true =>
      refine ⟨_, SymbolTable.prelude_registered, ?_⟩
      refine registered_wellFormed empty_wellFormed rfl (List.prefix_refl _)
        (fun routine known => Or.inr fun var member type typed => ?_)
        fun record known => Or.inl known
      obtain ⟨component, scalar⟩ := intrinsic_typed 0 Intrinsic.all routine known var member
      cases scalar.symm.trans typed
      exact Ty.wellFormed_ofScalar component

theorem run_sound (program : Program Node) (intrinsics : Bool)
    (few : ∀ written ∈ program.annotations, written.endpoints.length < limit) :
    (program.run intrinsics).value.WellFormed limit ∧
      (program.run intrinsics).log.Obeys ((program.run intrinsics).value.rule limit) := by
  obtain ⟨table, set, valid⟩ :
      ∃ table, SymbolTable.initial intrinsics = .ok table ∧ table.WellFormed limit :=
    initial_wellFormed intrinsics
  simp only [Program.run]
  rw [set, SymbolTable.registering_ok, pure_bind]
  obtain ⟨grown, obeys⟩ := definitions_sound valid program.definitions few
  exact ⟨grown.valid, obeys⟩

end TensorLang
