import Mathlib.Data.List.Forall2
import TensorLang.Proofs.CompleteStmts
import TensorLang.Proofs.SoundDefinitions
import TensorLang.Tree.Numbering

set_option autoImplicit false

namespace TensorLang

open Logged

def Definition.newTargets (table : SymbolTable) : Definition Node → List Nat
  | .routine declaration => declaration.body.newTargets (declaration.bodyTable table)
  | .element _ | .external _ | .constant _ | .test _ => []

def definitionNewTargets (table : SymbolTable) : List (Definition Node) → List Nat
  | [] => []
  | definition :: rest =>
      definition.newTargets table ++ definitionNewTargets (definition.check table).value rest

-- The bare names that the program declares by assigning to them.
def Program.newTargets (program : Program Node) (intrinsics : Bool) : List Nat :=
  let table := SymbolTable.empty.registering (SymbolTable.initial intrinsics)
  definitionNewTargets table.value program.definitions

structure Routine.Matches (routine : Routine) (declaration : RoutineDecl Node) : Prop where
  name : routine.name = declaration.name.text
  parameters : routine.parameters.map Var.name =
    declaration.parameters.map fun parameter => parameter.name.text
  results : routine.results.map Var.name = declaration.results.map fun result => result.name.text
  typed : ∀ var ∈ routine.parameters ++ routine.results, var.type?.isSome = true
  body : routine.body? = some declaration.body

structure Element.Matches (record : Element) (declaration : ElementDecl Node) : Prop where
  name : record.name = declaration.name.text
  fields : record.fields.map Field.name = declaration.fields.map fun field => field.name.text

theorem declared_of_matches {routines : List Routine} {declarations : List (RoutineDecl Node)}
    (matched : List.Forall₂ Routine.Matches routines declarations) :
    ∀ routine ∈ routines, routine.isIntrinsic = false := by
  induction matched with
  | nil => exact fun _ member => (nomatch member)
  | @cons routine declaration _ _ head _ ih =>
      refine List.forall_mem_cons.mpr ⟨?_, ih⟩
      have body := head.body
      simp only [Routine.body?] at body
      simp only [Routine.isIntrinsic]
      cases origin : routine.origin with
      | intrinsic =>
          rw [origin] at body
          exact (nomatch body)
      | declared body => rfl

-- The registries grow by what the definitions declare, in order.
structure Registers (definitions : List (Definition Node)) (before after : SymbolTable) :
    Prop where
  routines : ∃ added, after.routines = before.routines ++ added ∧
    List.Forall₂ Routine.Matches added (definitions.filterMap Definition.routine?)
  elements : ∃ added, after.elements = before.elements ++ added ∧
    List.Forall₂ Element.Matches added (definitions.filterMap Definition.element?)

theorem registers_nothing {definition : Definition Node} {before after : SymbolTable}
    (same : before.SameRegistries after) (noRoutine : definition.routine? = none)
    (noElement : definition.element? = none) : Registers [definition] before after := by
  refine ⟨⟨[], ?_, ?_⟩, ⟨[], ?_, ?_⟩⟩
  · rw [same.routines, List.append_nil]
  · rw [List.filterMap_cons_none noRoutine]
    exact .nil
  · rw [same.elements, List.append_nil]
  · rw [List.filterMap_cons_none noElement]
    exact .nil

theorem registers_cons {definition : Definition Node} {rest : List (Definition Node)}
    {before middle after : SymbolTable} (first : Registers [definition] before middle)
    (later : Registers rest middle after) : Registers (definition :: rest) before after := by
  obtain ⟨⟨routines, grown, matched⟩, ⟨elements, grownElements, matchedElements⟩⟩ := first
  obtain ⟨⟨moreRoutines, grownLater, matchedLater⟩,
    ⟨moreElements, grownElementsLater, matchedElementsLater⟩⟩ := later
  have split : definition :: rest = [definition] ++ rest := rfl
  refine ⟨⟨routines ++ moreRoutines, ?_, ?_⟩, ⟨elements ++ moreElements, ?_, ?_⟩⟩
  · rw [grownLater, grown, List.append_assoc]
  · rw [split, List.filterMap_append]
    exact List.rel_append matched matchedLater
  · rw [grownElementsLater, grownElements, List.append_assoc]
  · rw [split, List.filterMap_append]
    exact List.rel_append matchedElements matchedElementsLater

variable {table : SymbolTable}

theorem check_fields_complete (settled : table.Settled) (declared : List String)
    (fields : List (FieldDecl Node))
    (clean : (checkFields table declared fields).log.errors = []) :
    (checkFields table declared fields).value.map Field.name =
      fields.map fun field => field.name.text := by
  induction fields generalizing declared with
  | nil => rfl
  | cons field rest ih =>
      rw [checkFields] at clean ⊢
      obtain ⟨written, later⟩ := bind_clean.mp clean
      obtain ⟨type, typed⟩ :=
        Option.isSome_iff_exists.mp (annotation_gives settled field.type written)
      dsimp only at later
      rw [value_bind]
      dsimp only
      by_cases repeated : declared.contains field.name.text = true
      · rw [if_pos repeated] at later
        cases later
      · rw [if_neg repeated] at later ⊢
        obtain ⟨others, _⟩ := bind_clean.mp later
        rw [value_bind, typed]
        exact congrArg (field.name.text :: ·) (ih _ others)

theorem element_complete (settled : table.Settled) (declaration : ElementDecl Node)
    (clean : (declaration.check table).log.errors = []) :
    ∃ record : Element, record.Matches declaration ∧
      (declaration.check table).value = { table with elements := table.elements ++ [record] } := by
  rw [ElementDecl.check] at clean ⊢
  obtain ⟨kept, later⟩ := bind_clean.mp clean
  have fields := check_fields_complete settled [] declaration.fields kept
  rw [value_bind]
  cases found : table.element? declaration.name.text with
  | some record =>
      rw [found] at later
      cases later
  | none =>
      let record : Element :=
        ⟨declaration.name.text, (checkFields table [] declaration.fields).value⟩
      refine ⟨record, ⟨rfl, fields⟩, ?_⟩
      rw [SymbolTable.add_element_free record found, SymbolTable.registering_ok]
      rfl

theorem bind_slots_complete (settled : table.Settled) (slots : List Slot)
    (clean : (bindSlots table slots).log.errors = []) :
    (bindSlots table slots).value.1.Settled ∧
      ∃ vars : List Var, (bindSlots table slots).value.2 = vars.map some ∧
        vars.map Var.name = slots.map Slot.name ∧ ∀ var ∈ vars, var.type?.isSome = true := by
  induction slots generalizing table with
  | nil => exact ⟨settled, [], rfl, rfl, fun _ member => (nomatch member)⟩
  | cons slot rest ih =>
      rw [bindSlots] at clean ⊢
      obtain ⟨written, later⟩ := bind_clean.mp clean
      obtain ⟨type, typed⟩ :=
        Option.isSome_iff_exists.mp (annotation_gives settled slot.type written)
      rw [typed] at later
      rw [value_bind, typed]
      obtain ⟨tail, _⟩ := bind_clean.mp later
      obtain ⟨bound, vars, present, names, known⟩ := ih (settled.bind _ _ rfl) tail
      refine ⟨bound, table.fresh slot.name (some type) :: vars, ?_, ?_, ?_⟩
      · rw [List.map_cons, ← present]
        rfl
      · rw [List.map_cons, names]
        rfl
      · exact List.forall_mem_cons.mpr ⟨rfl, known⟩

theorem register_complete {inner : SymbolTable} (declaration : RoutineDecl Node)
    (parameters results : List Var)
    (clean : (declaration.register inner (parameters.map some)
      (results.map some)).log.errors = []) :
    (declaration.register inner (parameters.map some) (results.map some)).value =
      { inner with
        routines := inner.routines ++
          [⟨declaration.name.text, parameters, results, .declared declaration.body⟩] } := by
  unfold RoutineDecl.register at clean ⊢
  dsimp only at clean ⊢
  rw [allPresent_some, allPresent_some] at clean ⊢
  dsimp only at clean ⊢
  cases found : inner.routine? declaration.name.text with
  | some routine =>
      rw [found] at clean
      exact (nomatch clean)
  | none =>
      let routine : Routine :=
        ⟨declaration.name.text, parameters, results, .declared declaration.body⟩
      dsimp only
      rw [SymbolTable.add_routine_free routine found, SymbolTable.registering_ok]
      rfl

theorem body_table_wellFormed (valid : table.WellFormed ⊤) (declaration : RoutineDecl Node) :
    (declaration.bodyTable table).WellFormed ⊤ := by
  have parameters := bind_slots_yields valid.push (declaration.parameters.map ParameterDecl.slot)
    fun _ _ => ENat.natCast_lt_top _
  have results := bind_slots_yields parameters.value.valid
    (declaration.results.map ResultDecl.slot) fun _ _ => ENat.natCast_lt_top _
  exact results.value.valid

theorem routine_complete (valid : table.WellFormed ⊤) (settled : table.Settled)
    (declaration : RoutineDecl Node) (clean : (declaration.check table).log.errors = []) :
    (declaration.check table).Covers (declaration.body.newTargets (declaration.bodyTable table))
        declaration.body.expressionIds ∧
      Registers [.routine declaration] table (declaration.check table).value := by
  rw [RoutineDecl.check] at clean
  obtain ⟨head, later⟩ := bind_clean.mp clean
  obtain ⟨tail, later⟩ := bind_clean.mp later
  obtain ⟨body, registered⟩ := bind_clean.mp later
  obtain ⟨inside, parameters, parameterVars, parameterNames, parametersTyped⟩ :=
    bind_slots_complete settled.push _ head
  obtain ⟨bound, results, resultVars, resultNames, resultsTyped⟩ :=
    bind_slots_complete inside _ tail
  have covered := block_covers (body_table_wellFormed valid declaration) bound declaration.body
    body
  rw [parameterVars, resultVars] at registered
  have after := register_complete declaration parameters results registered
  rw [← parameterVars, ← resultVars] at after
  change (declaration.check table).value = _ at after
  have kept := body_registries table declaration
  refine ⟨⟨?_, ?_⟩, ⟨⟨[⟨declaration.name.text, parameters, results, .declared declaration.body⟩],
    ?_, ?_⟩, ⟨[], ?_, .nil⟩⟩⟩
  · rw [after]
    exact covered.settled.pop
  · rw [routine_ids]
    exact covered.ids
  · rw [after]
    exact congrArg (· ++ _) kept.routines
  · refine .cons ⟨rfl, ?_, ?_, ?_, rfl⟩ .nil
    · rw [parameterNames, List.map_map]
      rfl
    · rw [resultNames, List.map_map]
      rfl
    · exact List.forall_mem_append.mpr ⟨parametersTyped, resultsTyped⟩
  · rw [after, List.append_nil]
    exact kept.elements

theorem external_clean {declaration : ExternalDecl Node}
    (clean : (declaration.check table).log.errors = []) :
    (declaration.check table).value =
      table.bind declaration.name.text (declaration.type.resolve table).value .readWrite := by
  rw [ExternalDecl.check] at clean ⊢
  obtain ⟨_, later⟩ := bind_clean.mp clean
  rw [value_bind]
  dsimp only at later ⊢
  cases found : table.symbol? declaration.name.text with
  | some symbol =>
      rw [found] at later
      cases later
  | none => rfl

theorem external_complete (settled : table.Settled) (declaration : ExternalDecl Node)
    (clean : (declaration.check table).log.errors = []) :
    (declaration.check table).value.Settled ∧
      table.SameRegistries (declaration.check table).value := by
  obtain ⟨written, _⟩ := bind_clean.mp clean
  rw [external_clean clean]
  exact ⟨settled.bind _ _ (annotation_gives settled declaration.type written),
    table.bind_registries ..⟩

theorem definition_complete (valid : table.WellFormed ⊤) (settled : table.Settled)
    (definition : Definition Node) (clean : (definition.check table).log.errors = []) :
    (definition.check table).Covers (definition.newTargets table) definition.expressionIds ∧
      Registers [definition] table (definition.check table).value := by
  cases definition with
  | element declaration =>
      obtain ⟨record, matched, after⟩ := element_complete settled declaration clean
      have silent := ids_of_view (Log.View.ids.part_element table declaration)
      rw [Definition.check, after]
      refine ⟨covers_silent ?_ silent, ⟨⟨[], ?_, .nil⟩, ⟨[record], ?_, .cons matched .nil⟩⟩⟩
      · rw [after]
        exact settled
      · exact (List.append_nil _).symm
      · rfl
  | external declaration =>
      obtain ⟨bound, same⟩ := external_complete settled declaration clean
      have silent := ids_of_view (Log.View.ids.part_external table declaration)
      exact ⟨covers_silent bound silent, registers_nothing same rfl rfl⟩
  | routine declaration => exact routine_complete valid settled declaration clean
  | constant declaration =>
      have same := declaration_registries table .constant declaration
      exact ⟨declaration_covers valid settled .constant declaration clean,
        registers_nothing same rfl rfl⟩
  | test declaration =>
      exact ⟨covers_silent settled rfl, registers_nothing (.refl table) rfl rfl⟩

theorem definitions_complete (valid : table.WellFormed ⊤) (settled : table.Settled)
    (definitions : List (Definition Node))
    (clean : (checkDefinitions table definitions).log.errors = []) :
    (checkDefinitions table definitions).Covers (definitionNewTargets table definitions)
        (definitions.flatMap Definition.expressionIds) ∧
      Registers definitions table (checkDefinitions table definitions).value := by
  induction definitions generalizing table with
  | nil =>
      refine ⟨covers_silent settled rfl, ⟨⟨[], ?_, .nil⟩, ⟨[], ?_, .nil⟩⟩⟩
      · exact (List.append_nil _).symm
      · exact (List.append_nil _).symm
  | cons definition rest ih =>
      rw [checkDefinitions] at clean ⊢
      rw [definitionNewTargets, List.flatMap_cons]
      obtain ⟨first, later⟩ := bind_clean.mp clean
      obtain ⟨covered, registered⟩ := definition_complete valid settled definition first
      have left := definition_yields valid definition fun _ _ => ENat.natCast_lt_top _
      obtain ⟨rest, registry⟩ := ih left.value.valid covered.settled later
      exact ⟨covers_bind covered rest, registers_cons registered registry⟩

theorem initial_settled (intrinsics : Bool) :
    ∃ table, SymbolTable.initial intrinsics = .ok table ∧ table.WellFormed ⊤ ∧
      table.Settled ∧ table.elements = [] ∧
        ∀ routine ∈ table.routines, routine.isIntrinsic = true := by
  have start : ∃ table, SymbolTable.initial intrinsics = .ok table ∧ table.WellFormed ⊤ :=
    initial_wellFormed intrinsics
  obtain ⟨table, set, valid⟩ := start
  refine ⟨table, set, valid, ?_⟩
  cases intrinsics with
  | false =>
      cases Except.ok.inj set
      exact ⟨SymbolTable.empty_settled, rfl, fun _ member => (nomatch member)⟩
  | true =>
      cases Except.ok.inj (SymbolTable.prelude_registered.symm.trans set)
      exact ⟨SymbolTable.empty_settled, rfl, by decide⟩

theorem run_complete (program : Program Node) (intrinsics : Bool)
    (clean : (program.run intrinsics).log.errors = []) :
    ((program.run intrinsics).log.ids ++ program.newTargets intrinsics).Perm
        program.expressionIds ∧
      List.Forall₂ Routine.Matches
        ((program.run intrinsics).value.routines.filter (!·.isIntrinsic)) program.routines ∧
      List.Forall₂ Element.Matches (program.run intrinsics).value.elements program.elements := by
  obtain ⟨table, set, valid, settled, noElements, intrinsic⟩ := initial_settled intrinsics
  simp only [Program.run, Program.newTargets] at *
  rw [set, SymbolTable.registering_ok, pure_bind] at clean ⊢
  obtain ⟨covered, registered⟩ := definitions_complete valid settled program.definitions clean
  obtain ⟨⟨routines, grown, matched⟩, ⟨elements, grownElements, matchedElements⟩⟩ := registered
  refine ⟨covered.ids, ?_, ?_⟩
  · have none : table.routines.filter (!·.isIntrinsic) = [] := by
      simpa [List.filter_eq_nil_iff] using intrinsic
    have all : routines.filter (!·.isIntrinsic) = routines := by
      simpa [List.filter_eq_self] using declared_of_matches matched
    rw [grown, List.filter_append, none, all]
    exact matched
  · rw [grownElements, noElements]
    exact matchedElements

theorem report_of_check {program : Program Node} {intrinsics : Bool} {report : Report}
    (checked : program.check intrinsics = .ok report) :
    report = ⟨(program.run intrinsics).log.errors, (program.run intrinsics).log.entries,
      (program.run intrinsics).value⟩ := by
  unfold Program.check at checked
  dsimp only at checked
  split at checked
  · exact (Except.ok.inj checked).symm
  · exact (nomatch checked)

theorem types_recorded (report : Report) (id : Nat) :
    (report.types? id).isSome = true ↔ id ∈ report.entries.map Entry.id := by
  simp only [Report.types?]
  rw [Option.isSome_map, List.find?_isSome]
  simp

-- A program without faults is fully typed: all its expressions are recorded but the bare names that
-- an assignment declares, and all that it defines is registered.
theorem clean_program_typed (program : Program Node) (intrinsics : Bool) (report : Report)
    (distinct : program.DistinctIds) (checked : program.check intrinsics = .ok report) :
    (∀ id, (report.types? id).isSome = true →
      id ∈ program.expressionIds ∧ id ∉ program.partIds) ∧
      (report.errors = [] →
        (∀ id, (report.types? id).isSome = true ↔
          id ∈ program.expressionIds ∧ id ∉ program.newTargets intrinsics) ∧
        List.Forall₂ Routine.Matches report.routines program.routines ∧
        List.Forall₂ Element.Matches report.elements program.elements) := by
  obtain ⟨once, _, apart⟩ := List.nodup_append.mp distinct
  have recorded := run_ids_sublist program intrinsics
  rw [report_of_check checked]
  refine ⟨fun id typed => ?_, fun clean => ?_⟩
  · have member := recorded.subset ((types_recorded _ id).mp typed)
    exact ⟨member, fun part => apart id member id part rfl⟩
  · obtain ⟨covered, routines, elements⟩ := run_complete program intrinsics clean
    refine ⟨fun id => ?_, routines, elements⟩
    -- Nothing is both recorded and missing, since nothing occurs twice.
    obtain ⟨_, _, exclusive⟩ := List.nodup_append.mp (covered.nodup_iff.mpr once)
    rw [types_recorded]
    constructor
    · intro typed
      exact ⟨recorded.subset typed, fun missing => exclusive id typed id missing rfl⟩
    · rintro ⟨member, present⟩
      rcases List.mem_append.mp (covered.mem_iff.mpr member) with typed | missing
      · exact typed
      · exact absurd missing present

def ledger : Program Node :=
  let name (text : String) : Name Place := ⟨none, text⟩
  let ident (text : String) : Expr Place := .ident (name text)
  Program.numbered 0 ⟨none,
    [.element ⟨none, name "Account", [⟨none, name "balance", .scalar none .float⟩]⟩,
      .routine ⟨none, .function, name "settle",
        [⟨none, name "amount", false, .scalar none .int⟩],
        [⟨none, name "total", .scalar none .int⟩],
        ⟨none,
          [.assign none [ident "rest"] (.binary none .add (ident "amount") (.int none 1)),
            .assign none [ident "total"] (ident "rest")]⟩⟩]⟩

theorem ledger_typed :
    ledger.DistinctIds ∧ ∃ report, ledger.check true = .ok report ∧ report.errors = [] ∧
      (ledger.newTargets true).length = 1 ∧
      (∀ id, (report.types? id).isSome = true ↔
        id ∈ ledger.expressionIds ∧ id ∉ ledger.newTargets true) ∧
      List.Forall₂ Routine.Matches report.routines ledger.routines ∧
      List.Forall₂ Element.Matches report.elements ledger.elements := by
  have distinct : ledger.DistinctIds := by decide +kernel
  have kept : (ledger.run true).log.defects = [] := by decide +kernel
  have clean : (ledger.run true).log.errors = [] := by decide +kernel
  have single : (ledger.newTargets true).length = 1 := by decide +kernel
  let report : Report :=
    ⟨(ledger.run true).log.errors, (ledger.run true).log.entries, (ledger.run true).value⟩
  have checked : ledger.check true = .ok report := by
    unfold Program.check
    dsimp only
    rw [kept]
  have complete := (clean_program_typed ledger true report distinct checked).2 clean
  exact ⟨distinct, report, checked, clean, single, complete⟩

end TensorLang
