import Mathlib.Data.List.ReduceOption
import TensorLang.Proofs.CompletePrograms
import TensorLang.Proofs.FirstNamed
import TensorLang.Proofs.ScopeDiscipline

set_option autoImplicit false

namespace TensorLang

open Logged

-- A declaration, and the table that it is checked against.
structure Met (α : Type) where
  table : SymbolTable
  declaration : α

def metDefinitions (table : SymbolTable) : List (Definition Node) → List (Met (Definition Node))
  | [] => []
  | definition :: rest =>
      ⟨table, definition⟩ :: metDefinitions (definition.check table).value rest

def initialTable (intrinsics : Bool) : SymbolTable :=
  (SymbolTable.empty.registering (SymbolTable.initial intrinsics)).value

namespace Program

def met (program : Program Node) (intrinsics : Bool) : List (Met (Definition Node)) :=
  metDefinitions (initialTable intrinsics) program.definitions

def metElements (program : Program Node) (intrinsics : Bool) : List (Met (ElementDecl Node)) :=
  (program.met intrinsics).filterMap fun met => met.declaration.element?.map (⟨met.table, ·⟩)

def metRoutines (program : Program Node) (intrinsics : Bool) : List (Met (RoutineDecl Node)) :=
  (program.met intrinsics).filterMap fun met => met.declaration.routine?.map (⟨met.table, ·⟩)

end Program

-- The first field of every name, unless its type is unknown.
def ElementDecl.fieldsIn (table : SymbolTable) (declaration : ElementDecl Node) : List Field :=
  (firstNamed (·.name.text) declaration.fields).filterMap fun field =>
    (field.type.resolve table).value.map (⟨field.name.text, ·⟩)

def Met.record (met : Met (ElementDecl Node)) : Element :=
  ⟨met.declaration.name.text, met.declaration.fieldsIn met.table⟩

-- The types of the slots, each resolved where the slots before it are bound.
def slotTypes (table : SymbolTable) : List Slot → List (Option Ty)
  | [] => []
  | slot :: rest =>
      match (slot.type.resolve table).value with
      | none => none :: slotTypes table rest
      | some type => some type :: slotTypes (table.bind slot.name (some type) slot.access) rest

def Met.headTypes (met : Met (RoutineDecl Node)) : List (Option Ty) :=
  slotTypes met.table.push
    (met.declaration.parameters.map ParameterDecl.slot ++
      met.declaration.results.map ResultDecl.slot)

def Met.isResolved (met : Met (RoutineDecl Node)) : Bool := met.headTypes.all Option.isSome

def intrinsicNames (intrinsics : Bool) : List String :=
  if intrinsics then Intrinsic.all.map Intrinsic.name else []

def Program.registeredRoutines (program : Program Node) (intrinsics : Bool) :
    List (Met (RoutineDecl Node)) :=
  firstNamed (·.declaration.name.text)
    (((program.metRoutines intrinsics).filter Met.isResolved).filter fun met =>
      !(intrinsicNames intrinsics).contains met.declaration.name.text)

-- A routine is what its definition says, with the types of its head.
structure Routine.Records (routine : Routine) (met : Met (RoutineDecl Node)) : Prop where
  declared : routine.Matches met.declaration
  types : (routine.parameters ++ routine.results).map Var.type? = met.headTypes
  resultTypes : routine.resultTypes.length = met.declaration.results.length

theorem check_fields_value (table : SymbolTable) (declared : List String)
    (fields : List (FieldDecl Node)) :
    (checkFields table declared fields).value =
      (firstNamed (·.name.text) (fields.filter fun field =>
        !declared.contains field.name.text)).filterMap fun field =>
          (field.type.resolve table).value.map (⟨field.name.text, ·⟩) := by
  induction fields generalizing declared with
  | nil => rfl
  | cons field rest ih =>
      simp only [checkFields, value_bind, List.filter_cons]
      cases known : declared.contains field.name.text with
      | true =>
          simp only [if_true, value_bind, Bool.not_true, Bool.false_eq_true, if_false]
          exact ih declared
      | false =>
          -- The names that are declared now are those before and the one of this field.
          have later : (firstNamed (·.name.text) (rest.filter fun other =>
                !declared.contains other.name.text)).filter
                  (·.name.text != field.name.text) =
              firstNamed (·.name.text) (rest.filter fun other =>
                !(field.name.text :: declared).contains other.name.text) := by
            rw [filter_firstNamed (fun other : FieldDecl Node => other.name.text)
              (· != field.name.text), List.filter_filter]
            refine congrArg _ (List.filter_congr fun other _ => ?_)
            simp only [List.contains_cons, Bool.not_or]
            rfl
          simp only [if_true, value_bind, Bool.not_false, Bool.false_eq_true, if_false]
          rw [ih, firstNamed, later, List.filterMap_cons]
          cases (field.type.resolve table).value <;> rfl

theorem element_fields (table : SymbolTable) (declaration : ElementDecl Node) :
    (checkFields table [] declaration.fields).value = declaration.fieldsIn table := by
  rw [check_fields_value]
  have all : (declaration.fields.filter fun field => !List.contains [] field.name.text) =
      declaration.fields := List.filter_eq_self.mpr fun _ _ => rfl
  rw [all]
  rfl

theorem element_registered (table : SymbolTable) (declaration : ElementDecl Node) :
    (declaration.check table).value.elements =
        addNew Element.name table.elements (Met.record ⟨table, declaration⟩) ∧
      (declaration.check table).value.routines = table.routines := by
  let record : Element := Met.record ⟨table, declaration⟩
  rw [ElementDecl.check, value_bind, element_fields]
  cases found : table.element? declaration.name.text with
  | some other =>
      exact ⟨(addNew_taken Element.name record found).symm, rfl⟩
  | none =>
      dsimp only
      rw [SymbolTable.add_element_free _ found, SymbolTable.registering_ok]
      exact ⟨(addNew_free Element.name record found).symm, rfl⟩

theorem slot_types_vars (table : SymbolTable) (slots : List Slot) :
    slotTypes table slots = (bindSlots table slots).value.2.map (·.bind Var.type?) := by
  induction slots generalizing table with
  | nil => rfl
  | cons slot rest ih =>
      rw [bindSlots, slotTypes, value_bind]
      cases (slot.type.resolve table).value with
      | none => exact congrArg (none :: ·) (ih _)
      | some type => exact congrArg (some type :: ·) (ih _)

theorem slot_types_known (table : SymbolTable) (slots : List Slot) :
    (slotTypes table slots).all Option.isSome =
      (bindSlots table slots).value.2.all Option.isSome := by
  induction slots generalizing table with
  | nil => rfl
  | cons slot rest ih =>
      rw [bindSlots, slotTypes, value_bind]
      cases (slot.type.resolve table).value with
      | none => rfl
      | some type => exact ih _

theorem slot_types_append (table : SymbolTable) (first second : List Slot) :
    slotTypes table (first ++ second) =
      slotTypes table first ++ slotTypes (bindSlots table first).value.1 second := by
  induction first generalizing table with
  | nil => rfl
  | cons slot rest ih =>
      rw [List.cons_append, bindSlots, slotTypes, slotTypes, value_bind]
      cases (slot.type.resolve table).value with
      | none => exact congrArg (none :: ·) (ih _)
      | some type => exact congrArg (some type :: ·) (ih _)

namespace Met

variable (met : Met (RoutineDecl Node))

def parameterVars : Logged (SymbolTable × List (Option Var)) :=
  bindSlots met.table.push (met.declaration.parameters.map ParameterDecl.slot)

def resultVars : Logged (SymbolTable × List (Option Var)) :=
  bindSlots met.parameterVars.value.1 (met.declaration.results.map ResultDecl.slot)

def routine : Routine :=
  ⟨met.declaration.name.text, met.parameterVars.value.2.reduceOption,
    met.resultVars.value.2.reduceOption, .declared met.declaration.body⟩

theorem is_resolved : met.isResolved =
    (met.parameterVars.value.2.all Option.isSome && met.resultVars.value.2.all Option.isSome) := by
  rw [isResolved, headTypes, slot_types_append, List.all_append, slot_types_known,
    slot_types_known]
  rfl

end Met

theorem allPresent_all {α : Type} (values : List (Option α)) :
    allPresent values = if values.all Option.isSome then some values.reduceOption else none := by
  simp only [allPresent]
  induction values with
  | nil => rfl
  | cons value? rest ih =>
      rw [List.mapM_cons, ih]
      cases value? with
      | none => rfl
      | some value =>
          rw [List.all_cons, List.reduceOption_cons_of_some]
          cases rest.all Option.isSome <;> rfl

theorem register_registered (table : SymbolTable) (declaration : RoutineDecl Node)
    (parameters results : List (Option Var)) :
    (declaration.register table parameters results).value.routines =
      if parameters.all Option.isSome && results.all Option.isSome then
        addNew Routine.name table.routines
          ⟨declaration.name.text, parameters.reduceOption, results.reduceOption,
            .declared declaration.body⟩
      else table.routines := by
  let routine : Routine :=
    ⟨declaration.name.text, parameters.reduceOption, results.reduceOption,
      .declared declaration.body⟩
  simp only [RoutineDecl.register, allPresent_all]
  cases parameters.all Option.isSome with
  | false => rfl
  | true =>
      cases results.all Option.isSome with
      | false => rfl
      | true =>
          simp only [if_true, Bool.and_self]
          cases found : table.routine? declaration.name.text with
          | some other =>
              exact (addNew_taken Routine.name routine found).symm
          | none =>
              dsimp only
              rw [SymbolTable.add_routine_free routine found, SymbolTable.registering_ok]
              exact (addNew_free Routine.name routine found).symm

theorem routine_registered (met : Met (RoutineDecl Node)) :
    (met.declaration.check met.table).value.routines =
      if met.isResolved then addNew Routine.name met.table.routines met.routine
      else met.table.routines := by
  have left := met.declaration.left_keeps met.table
  have registered := register_registered
    (met.declaration.body.check (met.declaration.bodyTable met.table)).value.pop met.declaration
    met.parameterVars.value.2 met.resultVars.value.2
  rw [left.registries.routines, ← met.is_resolved] at registered
  exact registered

theorem definition_elements (table : SymbolTable) (definition : Definition Node) :
    (definition.check table).value.elements =
      (definition.element?.map fun declaration => Met.record ⟨table, declaration⟩).toList.foldl
        (addNew Element.name) table.elements := by
  cases definition with
  | element declaration => exact (element_registered table declaration).1
  | external declaration => exact (external_gains table declaration).registries.elements
  | routine declaration => exact (declaration.check_may_register table).elements
  | constant declaration => exact (declaration_registries table .constant declaration).elements
  | test declaration => rfl

theorem definition_routines (table : SymbolTable) (definition : Definition Node) :
    (definition.check table).value.routines =
      (((definition.routine?.map fun declaration => ⟨table, declaration⟩).filter
        Met.isResolved).map Met.routine).toList.foldl (addNew Routine.name) table.routines := by
  cases definition with
  | element declaration => exact (element_registered table declaration).2
  | external declaration => exact (external_gains table declaration).registries.routines
  | routine declaration =>
      refine (routine_registered ⟨table, declaration⟩).trans ?_
      simp only [Definition.routine?, Option.map_some, Option.filter_some]
      split <;> rfl
  | constant declaration => exact (declaration_registries table .constant declaration).routines
  | test declaration => rfl

-- A registry to which every definition offers at most one item takes the new ones of all offers.
theorem definitions_offer {α : Type} (nameOf : α → String) (listed : SymbolTable → List α)
    (offer : Met (Definition Node) → Option α)
    (taken : ∀ table definition, listed (definition.check table).value =
      (offer ⟨table, definition⟩).toList.foldl (addNew nameOf) (listed table))
    (table : SymbolTable) (definitions : List (Definition Node)) :
    listed (checkDefinitions table definitions).value =
      ((metDefinitions table definitions).filterMap offer).foldl (addNew nameOf)
        (listed table) := by
  induction definitions generalizing table with
  | nil => rfl
  | cons definition rest ih =>
      rw [checkDefinitions, value_bind, ih, taken, metDefinitions, List.filterMap_cons]
      cases offer ⟨table, definition⟩ <;> rfl

theorem definitions_elements (table : SymbolTable) (definitions : List (Definition Node)) :
    (checkDefinitions table definitions).value.elements =
      (((metDefinitions table definitions).filterMap fun met =>
        met.declaration.element?.map (⟨met.table, ·⟩)).map Met.record).foldl
          (addNew Element.name) table.elements := by
  rw [List.map_filterMap]
  refine definitions_offer Element.name SymbolTable.elements _ (fun table definition => ?_) ..
  rw [definition_elements, Option.map_map]
  rfl

theorem definitions_routines (table : SymbolTable) (definitions : List (Definition Node)) :
    (checkDefinitions table definitions).value.routines =
      ((((metDefinitions table definitions).filterMap fun met =>
        met.declaration.routine?.map (⟨met.table, ·⟩)).filter Met.isResolved).map
          Met.routine).foldl (addNew Routine.name) table.routines := by
  rw [List.filter_filterMap, List.map_filterMap]
  exact definitions_offer Routine.name SymbolTable.routines _ definition_routines ..

theorem initial_registries (intrinsics : Bool) :
    (initialTable intrinsics).elements = [] ∧
      (initialTable intrinsics).routines.map Routine.name = intrinsicNames intrinsics ∧
      ((initialTable intrinsics).routines.map Routine.name).Nodup ∧
      ∀ routine ∈ (initialTable intrinsics).routines, routine.isIntrinsic = true := by
  cases intrinsics with
  | false => exact ⟨rfl, rfl, List.nodup_nil, fun _ member => (nomatch member)⟩
  | true =>
      rw [initialTable, SymbolTable.initial, if_pos rfl, SymbolTable.prelude_registered,
        SymbolTable.registering_ok]
      exact ⟨rfl, rfl, by decide, by decide⟩

theorem known_vars {values : List (Option Var)} (known : values.all Option.isSome = true) :
    values = values.reduceOption.map some := by
  have present := allPresent_all values
  rw [if_pos known] at present
  exact allPresent_eq_some present

theorem resolved_records {met : Met (RoutineDecl Node)} (resolved : met.isResolved = true) :
    met.routine.Records met := by
  rw [met.is_resolved, Bool.and_eq_true] at resolved
  have parameters := known_vars resolved.1
  have results := known_vars resolved.2
  obtain ⟨parameterNames, parametersTyped⟩ := bind_slots_vars parameters
  obtain ⟨resultNames, resultsTyped⟩ := bind_slots_vars results
  have declared : met.routine.Matches met.declaration := by
    refine ⟨rfl, ?_, ?_, List.forall_mem_append.mpr ⟨parametersTyped, resultsTyped⟩, rfl⟩
    · refine parameterNames.trans ?_
      rw [List.map_map]
      rfl
    · refine resultNames.trans ?_
      rw [List.map_map]
      rfl
  refine ⟨declared, ?_, ?_⟩
  · have head (values : List (Option Var)) (known : values = values.reduceOption.map some) :
        values.map (·.bind Var.type?) = values.reduceOption.map Var.type? := by
      conv => lhs; rw [known]
      rw [List.map_map]
      rfl
    rw [Met.headTypes, slot_types_append, slot_types_vars, slot_types_vars, List.map_append]
    exact (congrArg₂ (· ++ ·) (head _ parameters) (head _ results)).symm
  · have lengths := congrArg List.length declared.results
    rw [List.length_map, List.length_map] at lengths
    rw [← lengths]
    exact List.filterMap_length_eq_length.mpr resultsTyped

theorem field_names_sublist (table : SymbolTable) (fields : List (FieldDecl Node)) :
    ((fields.filterMap fun field =>
      (field.type.resolve table).value.map (⟨field.name.text, ·⟩)).map Field.name).Sublist
        (fields.map (·.name.text)) := by
  induction fields with
  | nil => exact List.Sublist.refl _
  | cons field rest ih =>
      rw [List.filterMap_cons, List.map_cons]
      cases (field.type.resolve table).value with
      | none => exact ih.cons _
      | some type => exact ih.cons_cons _

theorem field_names_distinct (table : SymbolTable) (declaration : ElementDecl Node) :
    ((declaration.fieldsIn table).map Field.name).Nodup :=
  (firstNamed_distinct (·.name.text) declaration.fields).sublist (field_names_sublist table _)

theorem run_elements (program : Program Node) (intrinsics : Bool) :
    (program.run intrinsics).value.elements =
      (firstNamed (·.declaration.name.text) (program.metElements intrinsics)).map Met.record := by
  have folded := definitions_elements (initialTable intrinsics) program.definitions
  rw [(initial_registries intrinsics).1, foldl_addNew_nil, firstNamed_map] at folded
  exact folded

theorem run_routines (program : Program Node) (intrinsics : Bool) :
    (program.run intrinsics).value.routines =
      (initialTable intrinsics).routines ++
        (program.registeredRoutines intrinsics).map Met.routine := by
  have folded := definitions_routines (initialTable intrinsics) program.definitions
  have free (routine : Routine) :
      (!(initialTable intrinsics).routines.any (·.name == routine.name)) =
        !(intrinsicNames intrinsics).contains routine.name := by
    rw [← (initial_registries intrinsics).2.1]
    refine congrArg not (Bool.eq_iff_iff.mpr ?_)
    rw [any_named Routine.name, List.contains_iff_mem]
  rw [foldl_addNew] at folded
  simp only [free] at folded
  rw [filter_firstNamed Routine.name fun name => !(intrinsicNames intrinsics).contains name,
    List.filter_map, firstNamed_map] at folded
  exact folded

theorem run_names_distinct (program : Program Node) (intrinsics : Bool) :
    ((program.run intrinsics).value.elements.map Element.name).Nodup ∧
      ((program.run intrinsics).value.routines.map Routine.name).Nodup := by
  obtain ⟨noElements, _, distinct, _⟩ := initial_registries intrinsics
  have elements := definitions_elements (initialTable intrinsics) program.definitions
  have routines := definitions_routines (initialTable intrinsics) program.definitions
  have none : ((initialTable intrinsics).elements.map Element.name).Nodup := by
    rw [noElements]
    exact List.nodup_nil
  constructor
  · rw [show (program.run intrinsics).value.elements = _ from elements]
    exact foldl_addNew_distinct Element.name _ none
  · rw [show (program.run intrinsics).value.routines = _ from routines]
    exact foldl_addNew_distinct Routine.name _ distinct

theorem run_user_routines (program : Program Node) (intrinsics : Bool) :
    (program.run intrinsics).value.routines.filter (!·.isIntrinsic) =
      (program.registeredRoutines intrinsics).map Met.routine := by
  have builtIn := (initial_registries intrinsics).2.2.2
  have none : (initialTable intrinsics).routines.filter (!·.isIntrinsic) = [] := by
    simpa [List.filter_eq_nil_iff] using builtIn
  rw [run_routines, List.filter_append, none, List.nil_append, List.filter_eq_self]
  intro routine member
  obtain ⟨met, _, rfl⟩ := List.mem_map.mp member
  rfl

-- Errors do not matter here, but for those in the annotations of fields and heads.
theorem registered_items (program : Program Node) (intrinsics : Bool) (report : Report)
    (checked : program.check intrinsics = .ok report) :
    report.elements =
        (firstNamed (·.declaration.name.text) (program.metElements intrinsics)).map Met.record ∧
      (∀ record ∈ report.elements, (record.fields.map Field.name).Nodup) ∧
      List.Forall₂ Routine.Records report.routines (program.registeredRoutines intrinsics) ∧
      (∀ name record, report.element? name = some record ↔
        record ∈ report.elements ∧ record.name = name) ∧
      ∀ name routine, routine.isIntrinsic = false →
        (report.routine? name = some routine ↔
          routine ∈ report.routines ∧ routine.name = name) := by
  rw [report_of_check checked]
  simp only [Report.elements, Report.routines, Report.element?, Report.routine?,
    SymbolTable.element?, SymbolTable.routine?]
  have elements := run_elements program intrinsics
  obtain ⟨distinctElements, distinctRoutines⟩ := run_names_distinct program intrinsics
  refine ⟨elements, fun record member => ?_, ?_, find_named distinctElements,
    fun name routine user => ?_⟩
  · rw [elements] at member
    obtain ⟨met, _, rfl⟩ := List.mem_map.mp member
    exact field_names_distinct met.table met.declaration
  · rw [run_user_routines]
    refine List.forall₂_map_left_iff.mpr (List.forall₂_same.mpr fun met member => ?_)
    have known := List.mem_of_mem_filter ((firstNamed_sublist _ _).subset member)
    exact resolved_records (List.mem_filter.mp known).2
  · rw [find_named distinctRoutines]
    simp [user]

-- An element type with a repeated field and one of unknown type, an element type of the same name,
-- a function whose body is at fault, and functions that are not registered: a second one of that
-- name, one with the name of an intrinsic, and one with a parameter of unknown type.
def bookkeeping : Program Node :=
  let name (text : String) : Name Place := ⟨none, text⟩
  let field (text : String) (type : TypeExpr Place) : FieldDecl Place := ⟨none, name text, type⟩
  let routine (text : String) (type : TypeExpr Place) (body : List (Stmt Place)) :
      Definition Place :=
    .routine ⟨none, .procedure, name text, [⟨none, name "amount", false, type⟩], [],
      ⟨none, body⟩⟩
  Program.numbered 0 ⟨none,
    [.element ⟨none, name "Account",
        [field "balance" (.scalar none .float), field "owner" (.element (name "Person")),
          field "balance" (.scalar none .int)]⟩,
      .element ⟨none, name "Account", []⟩,
      routine "show" (.scalar none .int) [.print none (.ident (name "ghost"))],
      routine "show" (.scalar none .float) [],
      routine "sin" (.scalar none .float) [],
      routine "pay" (.element (name "Person")) []]⟩

theorem bookkeeping_registered :
    ∃ report, bookkeeping.check true = .ok report ∧ report.errors.length = 7 ∧
      (report.elements.map fun record => record.fields.map Field.name) = [["balance"]] ∧
      report.routines.map Routine.name = ["show"] ∧
      report.elements = (firstNamed (·.declaration.name.text)
        (bookkeeping.metElements true)).map Met.record ∧
      List.Forall₂ Routine.Records report.routines (bookkeeping.registeredRoutines true) := by
  have kept : (bookkeeping.run true).log.defects = [] := by decide +kernel
  have checked : bookkeeping.check true = .ok ⟨(bookkeeping.run true).log.errors,
      (bookkeeping.run true).log.entries, (bookkeeping.run true).value⟩ := by
    unfold Program.check
    dsimp only
    rw [kept]
  obtain ⟨elements, _, routines, _⟩ := registered_items bookkeeping true _ checked
  exact ⟨_, checked, by decide +kernel, by decide +kernel, by decide +kernel, elements, routines⟩

end TensorLang
