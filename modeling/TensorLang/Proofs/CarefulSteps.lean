import TensorLang.Proofs.ScopeDiscipline
import TensorLang.Proofs.StepsSound

set_option autoImplicit false

namespace TensorLang

open Logged

namespace SymbolTable

-- The table after some steps, which does not depend on what has been recorded.
def through (table : SymbolTable) (steps : List Step) : SymbolTable :=
  ((Moment.mk table []).after steps).table

def fixes (table : SymbolTable) (name : String) : Bool :=
  (table.local? name).any (·.var.type?.isSome)

theorem local?_bind (table : SymbolTable) (name : String) (type? : Option Ty) (access : Access)
    {other : String} (different : name ≠ other) :
    (table.bind name type? access).local? other = table.local? other := by
  obtain ⟨outer, _, after⟩ := table.scopes_bind name type? access
  rw [scopes_current] at after
  rw [local?, (List.cons.inj after).1]
  exact table.current.symbol?_insert_of_ne _ other different

theorem fixes_of_unbound {table : SymbolTable} {name : String}
    (free : table.symbol? name = none) : table.fixes name = false := by
  rw [fixes]
  cases found : table.local? name with
  | none => rfl
  | some symbol => cases free.symm.trans (symbol_of_local found)

end SymbolTable

theorem perform_table (moment : Moment) (step : Step) :
    (step.perform moment).table = (step.perform ⟨moment.table, []⟩).table := by
  cases step <;> rfl

theorem after_table (moment : Moment) (steps : List Step) :
    (moment.after steps).table = moment.table.through steps := by
  simp only [SymbolTable.through, Moment.after]
  induction steps generalizing moment with
  | nil => rfl
  | cons step rest ih =>
      rw [List.foldl_cons, List.foldl_cons, ih, perform_table, ← ih]

namespace SymbolTable

variable (table : SymbolTable)

theorem through_cons (step : Step) (rest : List Step) :
    table.through (step :: rest) = (step.perform ⟨table, []⟩).table.through rest := by
  rw [← after_table]
  rfl

theorem through_append (first second : List Step) :
    table.through (first ++ second) = (table.through first).through second := by
  rw [through, Moment.after, List.foldl_append]
  exact after_table _ second

theorem through_recordings {α : Type} (check : Logged α) :
    table.through check.recordings = table :=
  recordings_table ⟨table, []⟩ check

end SymbolTable

theorem Leads.through {before after : SymbolTable} {steps : List Step} {recorded : List Entry}
    (walk : Leads before steps after recorded) : before.through steps = after :=
  congrArg Moment.table (walk.reaches [])

-- The step does not bind the name where the current scope binds it with a known type.
def Step.Careful (name : String) (table : SymbolTable) : Step → Prop
  | .bind bound _ _ => bound = name → table.fixes name = false
  | .record _ | .push | .pop | .element _ | .routine _ => True

def Careful (name : String) (table : SymbolTable) : List Step → Prop
  | [] => True
  | step :: rest => step.Careful name table ∧ Careful name (step.perform ⟨table, []⟩).table rest

variable {name : String} {table : SymbolTable}

theorem careful_append (first second : List Step) :
    Careful name table (first ++ second) ↔
      Careful name table first ∧ Careful name (table.through first) second := by
  induction first generalizing table with
  | nil => exact (and_iff_right trivial).symm
  | cons step rest ih =>
      rw [List.cons_append, Careful, Careful, ih, table.through_cons, and_assoc]

theorem careful_recordings {α : Type} (check : Logged α) :
    Careful name table check.recordings := by
  simp only [Logged.recordings]
  induction check.log.entries with
  | nil => trivial
  | cons entry rest ih => exact ⟨trivial, ih⟩

theorem careful_after {α : Type} {check : Logged α} {steps : List Step}
    (careful : Careful name table steps) : Careful name table (check.recordings ++ steps) := by
  rw [careful_append, table.through_recordings]
  exact ⟨careful_recordings check, careful⟩

theorem careful_left {steps : List Step} (inner : Careful name table steps) :
    Careful name table (steps ++ [.pop]) := by
  rw [careful_append]
  exact ⟨inner, trivial, trivial⟩

theorem declaration_careful (table : SymbolTable) (constancy : Constancy)
    (declaration : Declaration Node) : Careful name table (declaration.steps table constancy) := by
  simp only [Declaration.steps]
  apply careful_after
  by_cases bound : (table.local? declaration.name.text).any (·.var.type?.isSome) = true
  · rw [if_pos bound]
    trivial
  · rw [if_neg bound]
    refine ⟨fun same => ?_, trivial⟩
    rw [← same]
    exact Bool.eq_false_iff.mpr bound

theorem targets_careful (table : SymbolTable) (targets : List (Expr Node × Option Ty)) :
    Careful name table (targetSteps table targets) := by
  induction targets generalizing table with
  | nil => trivial
  | cons target rest ih =>
      rw [targetSteps]
      cases target.1.ident? with
      | none => exact ih table
      | some found =>
          dsimp only
          cases free : table.symbol? found.text with
          | some symbol => exact ih table
          | none =>
              refine ⟨fun same => ?_, ih _⟩
              rw [← same]
              exact SymbolTable.fixes_of_unbound free

-- A counter is the first name that the scope of its loop binds.
theorem counted_careful (counter : Name Node) {steps : List Step}
    (inner : Careful name (table.push.bindCounter counter) steps) :
    Careful name table.push (counterStep counter :: (steps ++ [.pop])) :=
  ⟨fun _ => rfl, careful_left inner⟩

mutual
theorem stmt_careful (table : SymbolTable) (statement : Stmt Node) :
    Careful name table (statement.steps table) := by
  cases statement with
  | «variable» declaration => exact declaration_careful table .variable declaration
  | constant declaration => exact declaration_careful table .constant declaration
  | loop node condition body =>
      rw [Stmt.steps]
      exact careful_after ⟨trivial, careful_left (block_careful table.push body)⟩
  | branch node condition thenBlock elseBlock =>
      have taken : Careful name table.push (thenBlock.steps table.push) :=
        block_careful table.push thenBlock
      cases elseBlock with
      | none =>
          rw [Stmt.steps]
          exact careful_after ⟨trivial, careful_left taken⟩
      | some elseBlock =>
          rw [Stmt.steps]
          refine careful_after ⟨trivial, (careful_append _ _).mpr ⟨taken, ?_⟩⟩
          change Careful name (table.push.through (thenBlock.steps table.push)) _
          rw [(block_leads table.push thenBlock).through]
          exact ⟨trivial, trivial, careful_left (block_careful _ elseBlock)⟩
  | forRange node counter domain lower upper body =>
      rw [Stmt.steps]
      exact ⟨trivial, careful_after (counted_careful counter (block_careful _ body))⟩
  | forSet node counter domain set body =>
      rw [Stmt.steps]
      exact ⟨trivial, counted_careful counter (block_careful _ body)⟩
  | print node value =>
      rw [Stmt.steps]
      exact careful_recordings _
  | assign node targets value =>
      rw [Stmt.steps]
      exact careful_after (targets_careful table _)
  | eval node value =>
      rw [Stmt.steps]
      exact careful_recordings _
theorem block_careful (table : SymbolTable) (block : Block Node) :
    Careful name table (block.steps table) := by
  obtain ⟨node, statements⟩ := block
  rw [Block.steps]
  exact stmts_careful table statements
theorem stmts_careful (table : SymbolTable) (statements : List (Stmt Node)) :
    Careful name table (stmtSteps table statements) := by
  cases statements with
  | nil =>
      rw [stmtSteps]
      trivial
  | cons statement rest =>
      rw [stmtSteps, careful_append, (stmt_leads table statement).through]
      exact ⟨stmt_careful table statement, stmts_careful _ rest⟩
end

theorem slot_steps_append (table : SymbolTable) (first second : List Slot) :
    slotSteps table (first ++ second) =
      slotSteps table first ++ slotSteps (bindSlots table first).value.1 second := by
  induction first generalizing table with
  | nil => rfl
  | cons slot rest ih =>
      rw [List.cons_append, slotSteps, slotSteps, bindSlots, value_bind]
      cases (slot.type.resolve table).value with
      | none => exact ih table
      | some type => exact congrArg (List.cons _) (ih _)

-- Slots are bound without a look at what is there, so that each name may occur only once.
theorem slots_careful (table : SymbolTable) {slots : List Slot}
    (once : (slots.map Slot.name).count name ≤ 1)
    (free : name ∈ slots.map Slot.name → table.fixes name = false) :
    Careful name table (slotSteps table slots) := by
  induction slots generalizing table with
  | nil => trivial
  | cons slot rest ih =>
      rw [List.map_cons] at once free
      have fewer : (rest.map Slot.name).count name ≤ 1 :=
        le_trans (List.count_le_count_cons) once
      rw [slotSteps]
      cases (slot.type.resolve table).value with
      | none => exact ih table fewer fun member => free (List.mem_cons_of_mem _ member)
      | some type =>
          refine ⟨fun same => free (same ▸ List.mem_cons_self), ih _ fewer fun member => ?_⟩
          have different : slot.name ≠ name := by
            intro same
            rw [same, List.count_cons_self] at once
            exact absurd (List.count_pos_iff.mpr member) (by omega)
          change (SymbolTable.bind ..).fixes name = false
          rw [SymbolTable.fixes, table.local?_bind _ _ _ different]
          exact free (List.mem_cons_of_mem _ member)

def RoutineDecl.slotNames (declaration : RoutineDecl Node) : List String :=
  declaration.parameters.map (·.name.text) ++ declaration.results.map (·.name.text)

theorem register_careful (inner : SymbolTable) (declaration : RoutineDecl Node)
    (parameters results : List (Option Var)) :
    Careful name table (declaration.registerSteps inner parameters results) := by
  unfold RoutineDecl.registerSteps
  split
  · split
    · trivial
    · exact ⟨trivial, trivial⟩
  · trivial

theorem routine_careful (table : SymbolTable) (declaration : RoutineDecl Node)
    (once : declaration.slotNames.count name ≤ 1) :
    Careful name table (declaration.steps table) := by
  let parameterSlots := declaration.parameters.map ParameterDecl.slot
  let resultSlots := declaration.results.map ResultDecl.slot
  have names : (parameterSlots ++ resultSlots).map Slot.name = declaration.slotNames := by
    rw [List.map_append, List.map_map, List.map_map]
    rfl
  rw [← names] at once
  have head := slots_careful table.push once fun _ => rfl
  rw [slot_steps_append, careful_append, (slots_lead table.push parameterSlots).through] at head
  simp only [RoutineDecl.steps]
  refine ⟨trivial, (careful_append _ _).mpr ⟨head.1, ?_⟩⟩
  change Careful name (table.push.through _) _
  rw [(slots_lead table.push parameterSlots).through, careful_append, (slots_lead _ _).through,
    careful_append]
  exact ⟨head.2, block_careful _ declaration.body, trivial, register_careful ..⟩

theorem definition_careful (table : SymbolTable) (definition : Definition Node)
    (once : ∀ declaration ∈ definition.routine?, declaration.slotNames.count name ≤ 1) :
    Careful name table (definition.steps table) := by
  cases definition with
  | element declaration =>
      simp only [Definition.steps, ElementDecl.steps]
      cases table.element? declaration.name.text with
      | some record => trivial
      | none => exact ⟨trivial, trivial⟩
  | external declaration =>
      simp only [Definition.steps, ExternalDecl.steps]
      cases free : table.symbol? declaration.name.text with
      | some symbol => trivial
      | none =>
          refine ⟨fun same => ?_, trivial⟩
          rw [← same]
          exact SymbolTable.fixes_of_unbound free
  | routine declaration => exact routine_careful table declaration (once declaration rfl)
  | constant declaration => exact declaration_careful table .constant declaration
  | test declaration => trivial

theorem definitions_careful {table : SymbolTable} (valid : table.WellFormed ⊤)
    (definitions : List (Definition Node))
    (once : ∀ declaration ∈ definitions.filterMap Definition.routine?,
      declaration.slotNames.count name ≤ 1) :
    Careful name table (definitionSteps table definitions) := by
  induction definitions generalizing table with
  | nil => trivial
  | cons definition rest ih =>
      have next := (definition_yields valid definition fun _ _ => endpoints_lt_top _).value.valid
      rw [definitionSteps, careful_append, (definition_leads valid definition).through]
      constructor
      · refine definition_careful table definition fun declaration member => once declaration ?_
        exact List.mem_filterMap.mpr ⟨definition, List.mem_cons_self, member⟩
      · refine ih next fun declaration member => once declaration ?_
        obtain ⟨other, listed, same⟩ := List.mem_filterMap.mp member
        exact List.mem_filterMap.mpr ⟨other, List.mem_cons_of_mem _ listed, same⟩

theorem prelude_careful (intrinsics : Bool) : Careful name table (preludeSteps intrinsics) := by
  cases intrinsics with
  | false => trivial
  | true =>
      simp only [preludeSteps, if_true]
      induction prelude generalizing table with
      | nil => trivial
      | cons routine rest ih => exact ⟨trivial, ih⟩

theorem program_steps (program : Program Node) (intrinsics : Bool) :
    ∃ table : SymbolTable, table.WellFormed ⊤ ∧
      (Moment.start intrinsics).table.through (preludeSteps intrinsics) = table ∧
      program.steps intrinsics =
        preludeSteps intrinsics ++ definitionSteps table program.definitions := by
  obtain ⟨table, set, first⟩ := prelude_leads intrinsics
  obtain ⟨initial, same, valid⟩ :
      ∃ table, SymbolTable.initial intrinsics = .ok table ∧ table.WellFormed ⊤ :=
    initial_wellFormed intrinsics
  cases set.symm.trans same
  have reached : (Moment.start intrinsics).after (preludeSteps intrinsics) = ⟨table, []⟩ :=
    first.reaches []
  refine ⟨table, valid, first.through, ?_⟩
  rw [Program.steps, reached]

theorem program_careful (program : Program Node) (intrinsics : Bool)
    (once : ∀ declaration ∈ program.routines, declaration.slotNames.count name ≤ 1) :
    Careful name (Moment.start intrinsics).table (program.steps intrinsics) := by
  obtain ⟨table, valid, reached, steps⟩ := program_steps program intrinsics
  rw [steps, careful_append, reached]
  exact ⟨prelude_careful intrinsics, definitions_careful valid program.definitions once⟩

end TensorLang
