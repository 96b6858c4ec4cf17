import TensorLang.Proofs.CarefulSteps
import TensorLang.Proofs.KnownVariables

set_option autoImplicit false

namespace TensorLang

open Logged

-- The variable that the step declares, if it does, where it is taken from the table.
def Step.declared? (table : SymbolTable) : Step → Option Var
  | .bind name type? _ => some (table.fresh name type?)
  | .record _ | .push | .pop | .element _ | .routine _ => none

namespace SymbolTable

def declared (table : SymbolTable) : List Step → List Var
  | [] => []
  | step :: rest =>
      (step.declared? table).toList ++ (step.perform ⟨table, []⟩).table.declared rest

theorem declared_append (table : SymbolTable) (first second : List Step) :
    table.declared (first ++ second) =
      table.declared first ++ (table.through first).declared second := by
  induction first generalizing table with
  | nil => rfl
  | cons step rest ih =>
      rw [List.cons_append, declared, declared, ih, table.through_cons, List.append_assoc]

theorem step_ids (table : SymbolTable) (step : Step) :
    let taken := (step.declared? table).toList
    taken.map Var.id = List.range' table.nextVar taken.length ∧
      (step.perform ⟨table, []⟩).table.nextVar = table.nextVar + taken.length := by
  cases step <;> exact ⟨rfl, rfl⟩

theorem declared_ids (table : SymbolTable) (steps : List Step) :
    (table.declared steps).map Var.id =
      List.range' table.nextVar (table.declared steps).length := by
  induction steps generalizing table with
  | nil => rfl
  | cons step rest ih =>
      obtain ⟨ids, next⟩ := table.step_ids step
      rw [declared, List.map_append, ids, ih, next, List.length_append]
      exact List.range'_append_1

theorem declared_apart (table : SymbolTable) (steps : List Step) :
    ((table.declared steps).map Var.id).Nodup := by
  rw [declared_ids]
  exact List.nodup_range'

end SymbolTable

def Step.Over (known : Var → Prop) : Step → Prop
  | .record entry => ∀ type ∈ entry.types, type.Over known
  | .bind _ type? _ => IfKnown (·.Over known) type?
  | .element added => (Ty.element added).Over known
  | .routine added =>
      ∀ var ∈ added.parameters ++ added.results, IfKnown (·.Over known) var.type?
  | .push | .pop => True

variable {known : Var → Prop} {table : SymbolTable}

namespace SymbolTable.Over

theorem push (within : table.Over known) : table.push.Over known := by
  refine ⟨?_, within.routines, within.elements⟩
  rw [scopes_push]
  exact List.forall_mem_cons.mpr ⟨fun symbol member => absurd member List.not_mem_nil, within.symbols⟩

theorem pop (within : table.Over known) : table.pop.Over known :=
  ⟨fun scope live => within.symbols scope (table.scopes_pop_subset live), within.routines,
    within.elements⟩

theorem bind (within : table.Over known) (name : String) {type? : Option Ty} (access : Access)
    (declares : known (table.fresh name type?)) (typed : IfKnown (·.Over known) type?) :
    (table.bind name type? access).Over known := by
  obtain ⟨outer, before, after⟩ := table.scopes_bind name type? access
  have symbols := within.symbols
  rw [before, List.forall_mem_cons] at symbols
  refine ⟨?_, ?_, ?_⟩
  · rw [after]
    refine List.forall_mem_cons.mpr ⟨?_, symbols.2⟩
    exact List.forall_mem_cons.mpr ⟨⟨declares, typed⟩, symbols.1⟩
  · rw [table.routines_bind]
    exact within.routines
  · rw [table.elements_bind]
    exact within.elements

theorem step (within : table.Over known) {step : Step}
    (declares : ∀ var ∈ (step.declared? table).toList, known var) (stepOver : step.Over known) :
    (step.perform ⟨table, []⟩).table.Over known := by
  cases step with
  | record entry => exact within
  | push => exact within.push
  | bind name type? access =>
      exact within.bind name access (declares _ (List.mem_singleton_self _)) stepOver
  | pop => exact within.pop
  | element added =>
      refine ⟨within.symbols, within.routines, List.forall_mem_append.mpr ⟨within.elements, ?_⟩⟩
      exact List.forall_mem_singleton.mpr stepOver
  | routine added =>
      refine ⟨within.symbols, List.forall_mem_append.mpr ⟨within.routines, ?_⟩, within.elements⟩
      exact List.forall_mem_singleton.mpr stepOver

theorem through (within : table.Over known) {steps : List Step}
    (declares : ∀ var ∈ table.declared steps, known var) (each : ∀ step ∈ steps, step.Over known) :
    (table.through steps).Over known := by
  induction steps generalizing table with
  | nil => exact within
  | cons step rest ih =>
      rw [SymbolTable.declared, List.forall_mem_append] at declares
      obtain ⟨stepOver, later⟩ := List.forall_mem_cons.mp each
      rw [through_cons]
      exact ih (within.step declares.1 stepOver) declares.2 later

end SymbolTable.Over

-- A table over known variables brings up no others, if those that the steps declare are known.
def Brings (known : Var → Prop) (table : SymbolTable) (steps : List Step) : Prop :=
  table.Over known → (∀ var ∈ table.declared steps, known var) → ∀ step ∈ steps, step.Over known

namespace Brings

variable {steps later : List Step}

theorem nil : Brings known table [] := fun _ _ _ member => absurd member List.not_mem_nil

theorem append (first : Brings known table steps)
    (second : Brings known (table.through steps) later) : Brings known table (steps ++ later) := by
  intro within declares
  rw [SymbolTable.declared_append, List.forall_mem_append] at declares
  have early := first within declares.1
  exact List.forall_mem_append.mpr ⟨early, second (within.through declares.1 early) declares.2⟩

theorem one {step : Step} (stepOver : table.Over known → step.Over known) :
    Brings known table [step] := fun within _ =>
  List.forall_mem_cons.mpr ⟨stepOver within, fun _ member => absurd member List.not_mem_nil⟩

theorem cons {step : Step} (stepOver : table.Over known → step.Over known)
    (rest : Brings known (step.perform ⟨table, []⟩).table steps) :
    Brings known table (step :: steps) := (one stepOver).append rest

theorem silent {step : Step} (plain : step.Over known)
    (rest : Brings known (step.perform ⟨table, []⟩).table steps) :
    Brings known table (step :: steps) := cons (fun _ => plain) rest

theorem followed (first : Brings known table steps)
    (rest : (∀ step ∈ steps, step.Over known) → ∀ step ∈ later, step.Over known) :
    Brings known table (steps ++ later) := by
  intro within declares
  rw [SymbolTable.declared_append, List.forall_mem_append] at declares
  have early := first within declares.1
  exact List.forall_mem_append.mpr ⟨early, rest early⟩

theorem left (inner : Brings known table steps) : Brings known table (steps ++ [.pop]) :=
  inner.append (one fun _ => trivial)

theorem recordings {α : Type} {check : Logged α}
    (arise : ∀ entry ∈ check.log.entries, entry.Arises table) :
    Brings known table check.recordings := by
  intro within _ step member
  obtain ⟨entry, made, rfl⟩ := List.mem_map.mp member
  exact (arise entry made).within within

theorem after {α : Type} {check : Logged α}
    (arise : ∀ entry ∈ check.log.entries, entry.Arises table) (rest : Brings known table steps) :
    Brings known table (check.recordings ++ steps) := by
  refine (recordings arise).append ?_
  rw [table.through_recordings]
  exact rest

end Brings

theorem declaration_arise (table : SymbolTable) (constancy : Constancy)
    (declaration : Declaration Node) :
    ∀ entry ∈ (declaration.check table constancy).log.entries, entry.Arises table := by
  rw [show (declaration.check table constancy).log.entries = _ from
    Log.View.entries.part_declaration table constancy declaration]
  cases declaration.value with
  | none => exact fun _ made => nomatch made
  | some value => exact infer_entries_arise table .read value

theorem declaration_brings (table : SymbolTable) (constancy : Constancy)
    (declaration : Declaration Node) :
    Brings known table (declaration.steps table constancy) := by
  simp only [Declaration.steps]
  refine .after (declaration_arise table constancy declaration) ?_
  split
  · exact .nil
  · exact .one fun within => resolve_over within declaration.type

theorem target_steps_over {targets : List (Expr Node × Option Ty)}
    (typed : ∀ target ∈ targets, IfKnown (·.Over known) target.2) (table : SymbolTable) :
    ∀ step ∈ targetSteps table targets, step.Over known := by
  induction targets generalizing table with
  | nil => exact fun _ member => absurd member List.not_mem_nil
  | cons target rest ih =>
      obtain ⟨first, later⟩ := List.forall_mem_cons.mp typed
      rw [targetSteps]
      cases target.1.ident? with
      | none => exact ih later table
      | some name =>
          dsimp only
          cases table.symbol? name.text with
          | some symbol => exact ih later table
          | none => exact List.forall_mem_cons.mpr ⟨first, ih later _⟩

theorem targets_arise (table : SymbolTable) (span : Span) (targets : List (Expr Node))
    (value : Expr Node) :
    ∀ entry ∈ (checkTargets table span targets value).log.entries, entry.Arises table := by
  rw [show (checkTargets table span targets value).log.entries = _ from
    Log.View.entries.part_check_targets table span targets value]
  refine List.forall_mem_append.mpr ⟨infer_entries_arise table .read value, fun entry made => ?_⟩
  obtain ⟨target, _, made⟩ := List.mem_flatMap.mp made
  exact infer_entries_arise table target.targetMode target entry made

theorem assignment_brings (table : SymbolTable) (span : Span) (targets : List (Expr Node))
    (value : Expr Node) :
    let checked := checkTargets table span targets value
    Brings known table (checked.recordings ++ targetSteps table checked.value) := by
  refine .after (targets_arise table span targets value) fun within _ => ?_
  refine target_steps_over (fun target member => ?_) table
  exact target_types_known targets (infer_over within .read value) _ target.2
    (List.of_mem_zip member).2

theorem infer_brings (table : SymbolTable) (mode : Mode) (expression : Expr Node)
    {steps : List Step} (rest : Brings known table steps) :
    Brings known table ((expression.infer table mode).recordings ++ steps) :=
  rest.after (infer_entries_arise table mode expression)

theorem bounds_arise (table : SymbolTable) (lower upper : Expr Node) :
    ∀ entry ∈ (checkBounds table lower upper).log.entries, entry.Arises table := by
  rw [show (checkBounds table lower upper).log.entries = _ from
    Log.View.entries.part_check_bounds table lower upper]
  exact List.forall_mem_append.mpr
    ⟨infer_entries_arise table .read lower, infer_entries_arise table .read upper⟩

theorem print_arise (table : SymbolTable) (value : Expr Node) :
    ∀ entry ∈ (checkPrint table value).log.entries, entry.Arises table := by
  rw [show (checkPrint table value).log.entries = _ from
    Log.View.entries.part_print table value]
  exact infer_entries_arise table .read value

theorem counted_brings (counter : Name Node) {steps : List Step}
    (inner : Brings known (table.bindCounter counter) steps) :
    Brings known table (counterStep counter :: (steps ++ [.pop])) :=
  .silent (ifKnown_some (Ty.over_ofScalar .int)) inner.left

mutual
theorem stmt_brings (table : SymbolTable) (statement : Stmt Node) :
    Brings known table (statement.steps table) := by
  cases statement with
  | «variable» declaration => exact declaration_brings table .variable declaration
  | constant declaration => exact declaration_brings table .constant declaration
  | loop node condition body =>
      rw [Stmt.steps]
      exact infer_brings table .read condition (.silent trivial (block_brings table.push body).left)
  | branch node condition thenBlock elseBlock =>
      have taken : Brings known table.push (thenBlock.steps table.push) :=
        block_brings table.push thenBlock
      cases elseBlock with
      | none =>
          rw [Stmt.steps]
          exact infer_brings table .read condition (.silent trivial taken.left)
      | some elseBlock =>
          rw [Stmt.steps]
          refine infer_brings table .read condition (.silent trivial (taken.append ?_))
          rw [(block_leads table.push thenBlock).through]
          exact .silent trivial (.silent trivial (block_brings _ elseBlock).left)
  | forRange node counter domain lower upper body =>
      rw [Stmt.steps]
      refine .silent trivial (.after (bounds_arise table.push lower upper) ?_)
      exact counted_brings counter (block_brings _ body)
  | forSet node counter domain set body =>
      rw [Stmt.steps]
      exact .silent trivial (counted_brings counter (block_brings _ body))
  | print node value =>
      rw [Stmt.steps]
      exact .recordings (print_arise table value)
  | assign node targets value =>
      rw [Stmt.steps]
      exact assignment_brings table node.span targets value
  | eval node value =>
      rw [Stmt.steps]
      exact .recordings (infer_entries_arise table .read value)
theorem block_brings (table : SymbolTable) (block : Block Node) :
    Brings known table (block.steps table) := by
  obtain ⟨node, statements⟩ := block
  rw [Block.steps]
  exact stmts_bring table statements
theorem stmts_bring (table : SymbolTable) (statements : List (Stmt Node)) :
    Brings known table (stmtSteps table statements) := by
  cases statements with
  | nil =>
      rw [stmtSteps]
      exact .nil
  | cons statement rest =>
      rw [stmtSteps]
      refine (stmt_brings table statement).append ?_
      rw [(stmt_leads table statement).through]
      exact stmts_bring _ rest
end

theorem slots_bring (table : SymbolTable) (slots : List Slot) :
    Brings known table (slotSteps table slots) := by
  induction slots generalizing table with
  | nil => exact .nil
  | cons slot rest ih =>
      rw [slotSteps]
      cases resolved : (slot.type.resolve table).value with
      | none => exact ih table
      | some type =>
          exact .cons (fun within => resolved ▸ resolve_over within slot.type) (ih _)

theorem slot_bound (table : SymbolTable) (slots : List Slot) {var : Var}
    (member : some var ∈ (bindSlots table slots).value.2) :
    ∃ access, Step.bind var.name var.type? access ∈ slotSteps table slots := by
  induction slots generalizing table with
  | nil => cases member
  | cons slot rest ih =>
      rw [bindSlots, value_bind] at member
      rw [slotSteps]
      cases resolved : (slot.type.resolve table).value with
      | none =>
          rw [resolved] at member
          rcases List.mem_cons.mp member with absent | later
          · cases absent
          · exact ih table later
      | some type =>
          rw [resolved] at member
          rcases List.mem_cons.mp member with same | later
          · cases same
            exact ⟨slot.access, List.mem_cons_self⟩
          · obtain ⟨access, bound⟩ := ih _ later
            exact ⟨access, List.mem_cons_of_mem _ bound⟩

theorem slots_typed (table : SymbolTable) (slots : List Slot) {vars : List Var}
    (present : allPresent (bindSlots table slots).value.2 = some vars)
    (each : ∀ step ∈ slotSteps table slots, step.Over known) :
    ∀ var ∈ vars, IfKnown (·.Over known) var.type? := by
  intro var member
  have listed : some var ∈ (bindSlots table slots).value.2 := by
    rw [allPresent_eq_some present]
    exact List.mem_map_of_mem member
  obtain ⟨access, bound⟩ := slot_bound table slots listed
  exact each _ bound

theorem register_over (table : SymbolTable) (declaration : RoutineDecl Node)
    {parameters results : List (Option Var)}
    (typed : ∀ {vars}, allPresent parameters = some vars ∨ allPresent results = some vars →
      ∀ var ∈ vars, IfKnown (·.Over known) var.type?) :
    ∀ step ∈ declaration.registerSteps table parameters results, step.Over known := by
  unfold RoutineDecl.registerSteps
  split
  · rename_i parameterVars resultVars allParameters allResults
    split
    · exact fun _ member => absurd member List.not_mem_nil
    · refine List.forall_mem_singleton.mpr (List.forall_mem_append.mpr ⟨?_, ?_⟩)
      · exact typed (.inl allParameters)
      · exact typed (.inr allResults)
  · exact fun _ member => absurd member List.not_mem_nil

theorem routine_brings (table : SymbolTable) (declaration : RoutineDecl Node) :
    Brings known table (declaration.steps table) := by
  let parameterSlots := declaration.parameters.map ParameterDecl.slot
  let resultSlots := declaration.results.map ResultDecl.slot
  let parameters := (bindSlots table.push parameterSlots).value
  let results := (bindSlots parameters.1 resultSlots).value
  let inner := (declaration.body.check results.1).value
  have body : Brings known parameters.1 (slotSteps parameters.1 resultSlots ++
      (declaration.body.steps results.1 ++ [.pop])) := by
    refine (slots_bring parameters.1 resultSlots).append ?_
    rw [(slots_lead parameters.1 resultSlots).through]
    exact (block_brings results.1 declaration.body).left
  have head : Brings known table (.push :: (slotSteps table.push parameterSlots ++
      (slotSteps parameters.1 resultSlots ++ (declaration.body.steps results.1 ++ [.pop])))) := by
    refine .silent trivial ((slots_bring table.push parameterSlots).append ?_)
    rw [(slots_lead table.push parameterSlots).through]
    exact body
  have whole : Brings known table
      (_ ++ declaration.registerSteps inner.pop parameters.2 results.2) :=
    head.followed fun early => by
      simp only [List.forall_mem_cons, List.forall_mem_append] at early
      obtain ⟨_, parametersOver, resultsOver, _⟩ := early
      refine register_over inner.pop declaration fun present => ?_
      rcases present with parameter | result
      · exact slots_typed table.push parameterSlots parameter parametersOver
      · exact slots_typed parameters.1 resultSlots result resultsOver
  simpa [RoutineDecl.steps] using whole

theorem fields_over (within : table.Over known) (declared : List String)
    (fields : List (FieldDecl Node)) :
    ∀ field ∈ (checkFields table declared fields).value, field.type.Over known := by
  induction fields generalizing declared with
  | nil => exact fun _ member => absurd member List.not_mem_nil
  | cons field rest ih =>
      simp only [checkFields, value_bind]
      split
      · exact ih declared
      · rw [value_bind]
        split
        · rename_i type resolved
          exact List.forall_mem_cons.mpr ⟨resolve_over within field.type type resolved, ih _⟩
        · exact ih _

theorem definition_brings (table : SymbolTable) (definition : Definition Node) :
    Brings known table (definition.steps table) := by
  cases definition with
  | element declaration =>
      simp only [Definition.steps, ElementDecl.steps]
      cases table.element? declaration.name.text with
      | some record => exact .nil
      | none => exact .one fun within => .element _ (fields_over within [] declaration.fields)
  | external declaration =>
      simp only [Definition.steps, ExternalDecl.steps]
      cases table.symbol? declaration.name.text with
      | some symbol => exact .nil
      | none => exact .one fun within => resolve_over within declaration.type
  | routine declaration => exact routine_brings table declaration
  | constant declaration => exact declaration_brings table .constant declaration
  | test declaration => exact .nil

theorem definitions_bring {table : SymbolTable} (valid : table.WellFormed ⊤)
    (definitions : List (Definition Node)) :
    Brings known table (definitionSteps table definitions) := by
  induction definitions generalizing table with
  | nil => exact .nil
  | cons definition rest ih =>
      have next := (definition_yields valid definition fun _ _ => endpoints_lt_top _).value.valid
      refine (definition_brings table definition).append ?_
      rw [(definition_leads valid definition).through]
      exact ih next

theorem prelude_brings (table : SymbolTable) (intrinsics : Bool) :
    Brings known table (preludeSteps intrinsics) := by
  intro _ _ step member
  cases intrinsics with
  | false => cases member
  | true =>
      obtain ⟨routine, listed, rfl⟩ := List.mem_map.mp member
      intro var varMember
      obtain ⟨component, typed⟩ := intrinsic_typed 0 Intrinsic.all routine listed var varMember
      rw [typed]
      exact ifKnown_some (Ty.over_ofScalar component)

theorem program_brings (program : Program Node) (intrinsics : Bool) :
    Brings known (Moment.start intrinsics).table (program.steps intrinsics) := by
  obtain ⟨table, valid, reached, steps⟩ := program_steps program intrinsics
  rw [steps]
  refine (prelude_brings _ intrinsics).append ?_
  rw [reached]
  exact definitions_bring valid program.definitions

theorem start_over (intrinsics : Bool) : (Moment.start intrinsics).table.Over known := by
  refine ⟨fun scope live symbol member => ?_, fun _ member => absurd member List.not_mem_nil,
    fun _ member => absurd member List.not_mem_nil⟩
  rw [List.mem_singleton.mp live] at member
  cases member

theorem entry_recorded {moment : Moment} {steps : List Step} {entry : Entry}
    (made : entry ∈ (moment.after steps).entries) :
    entry ∈ moment.entries ∨ Step.record entry ∈ steps := by
  induction steps generalizing moment with
  | nil => exact .inl made
  | cons step rest ih =>
      rcases ih made with before | later
      · cases step with
        | record added =>
            rcases List.mem_append.mp before with old | new
            · exact .inl old
            · rw [List.mem_singleton.mp new]
              exact .inr List.mem_cons_self
        | push | bind | pop | element | routine => exact .inl before
      · exact .inr (List.mem_cons_of_mem _ later)

def Program.variables (program : Program Node) (intrinsics : Bool) : List Var :=
  (Moment.start intrinsics).table.declared (program.steps intrinsics)

theorem moments_over (program : Program Node) (intrinsics : Bool) {done : List Step}
    (early : done <+: program.steps intrinsics) {type : Ty}
    (held : ((Moment.start intrinsics).after done).Holds type) :
    type.Over (· ∈ program.variables intrinsics) := by
  have all : ∀ step ∈ program.steps intrinsics, step.Over (· ∈ program.variables intrinsics) :=
    program_brings program intrinsics (start_over intrinsics) fun _ declared => declared
  have each : ∀ step ∈ done, step.Over (· ∈ program.variables intrinsics) :=
    fun step member => all step (early.subset member)
  cases held with
  | table type held =>
      rw [after_table] at held
      refine ((start_over intrinsics).through (fun var declared => ?_) each).holds held
      obtain ⟨rest, whole⟩ := early
      rw [Program.variables, ← whole, SymbolTable.declared_append]
      exact List.mem_append_left _ declared
  | entry entry made type member =>
      rcases entry_recorded made with before | recorded
      · cases before
      · exact each _ recorded type member

end TensorLang
