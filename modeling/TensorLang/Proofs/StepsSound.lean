import TensorLang.Proofs.Entries
import TensorLang.Proofs.Steps
import TensorLang.Proofs.Success

set_option autoImplicit false

namespace TensorLang

inductive Moment.Holds (moment : Moment) : Ty → Prop where
  | table (type : Ty) (held : moment.table.Holds type) : moment.Holds type
  | entry (entry : Entry) (made : entry ∈ moment.entries) (type : Ty)
      (member : type ∈ entry.types) : moment.Holds type

def Moment.WellFormed (moment : Moment) : Prop :=
  ∀ type, moment.Holds type → type.WellFormed moment.table.elements ⊤

theorem moment_wellFormed_iff {moment : Moment} : moment.WellFormed ↔
    moment.table.WellFormed ⊤ ∧ ∀ entry ∈ moment.entries, (moment.table.rule ⊤).entry entry := by
  constructor
  · intro valid
    exact ⟨fun type held => valid type (.table type held),
      fun entry made type member => valid type (.entry entry made type member)⟩
  · rintro ⟨tableValid, entriesValid⟩ type held
    cases held with
    | table type held => exact tableValid type held
    | entry entry made type member => exact entriesValid entry made type member

/--
The steps lead from one table to another and record the given entries. Started from well-formed
types, they come through well-formed types only.
-/
structure Leads (before : SymbolTable) (steps : List Step) (after : SymbolTable)
    (recorded : List Entry) : Prop where
  reaches : ∀ entries, (Moment.mk before entries).after steps = ⟨after, entries ++ recorded⟩
  sound : ∀ entries, (Moment.mk before entries).WellFormed →
    ∀ done, done <+: steps → ((Moment.mk before entries).after done).WellFormed

namespace Leads

variable {before between after : SymbolTable} {steps later : List Step}
  {recorded added : List Entry}

theorem nil (table : SymbolTable) : Leads table [] table [] := by
  refine ⟨fun entries => by simp [Moment.after], fun entries valid done early => ?_⟩
  rw [List.prefix_nil.mp early]
  exact valid

theorem final (walk : Leads before steps after recorded) (entries : List Entry)
    (valid : (Moment.mk before entries).WellFormed) :
    (Moment.mk after (entries ++ recorded)).WellFormed := by
  rw [← walk.reaches entries]
  exact walk.sound entries valid steps (List.prefix_refl steps)

theorem append (first : Leads before steps between recorded)
    (second : Leads between later after added) :
    Leads before (steps ++ later) after (recorded ++ added) := by
  refine ⟨fun entries => ?_, fun entries valid done early => ?_⟩
  · have reached := first.reaches entries
    simp only [Moment.after] at reached ⊢
    rw [List.foldl_append, reached, ← List.append_assoc]
    exact second.reaches (entries ++ recorded)
  · rcases List.prefix_or_prefix_of_prefix early (List.prefix_append steps later) with inside | past
    · exact first.sound entries valid done inside
    · obtain ⟨rest, rfl⟩ := past
      have reached := first.reaches entries
      simp only [Moment.after] at reached ⊢
      rw [List.foldl_append, reached]
      exact second.sound _ (first.final entries valid) rest
        ((List.prefix_append_right_inj steps).mp early)

theorem one {step : Step}
    (move : ∀ entries, step.perform ⟨before, entries⟩ = ⟨after, entries ++ recorded⟩)
    (keeps : before.WellFormed ⊤ → before.Grows ⊤ after)
    (typed : before.WellFormed ⊤ → ∀ entry ∈ recorded, (after.rule ⊤).entry entry) :
    Leads before [step] after recorded := by
  refine ⟨move, fun entries valid done early => ?_⟩
  cases done with
  | nil => exact valid
  | cons first rest =>
      obtain ⟨rfl, last⟩ := List.cons_prefix_cons.mp early
      rw [List.prefix_nil.mp last]
      obtain ⟨tableValid, entriesValid⟩ := moment_wellFormed_iff.mp valid
      have grown := keeps tableValid
      rw [Moment.after, List.foldl_cons, List.foldl_nil, move]
      refine moment_wellFormed_iff.mpr ⟨grown.valid, fun entry made => ?_⟩
      rcases List.mem_append.mp made with old | new
      · exact fun type member => (entriesValid entry old type member).mono grown.elements
      · exact typed tableValid entry new

theorem unrecorded {step : Step}
    (move : ∀ entries, step.perform ⟨before, entries⟩ = ⟨after, entries⟩)
    (keeps : before.WellFormed ⊤ → before.Grows ⊤ after) : Leads before [step] after [] :=
  one (fun entries => by rw [move, List.append_nil]) keeps fun _ _ made => (nomatch made)

theorem push (table : SymbolTable) : Leads table [.push] table.push [] :=
  unrecorded (fun _ => rfl) fun valid => .of_elements valid.push rfl

theorem pop (table : SymbolTable) : Leads table [.pop] table.pop [] :=
  unrecorded (fun _ => rfl) fun valid => .of_elements valid.pop rfl

theorem bind (table : SymbolTable) (name : String) {type? : Option Ty} (access : Access)
    (typed : table.WellFormed ⊤ → IfKnown (·.WellFormed table.elements ⊤) type?) :
    Leads table [.bind name type? access] (table.bind name type? access) [] :=
  unrecorded (fun _ => rfl) fun valid =>
    .of_elements (valid.bind name access (typed valid)) (table.elements_bind ..)

theorem entries (table : SymbolTable) (made : List Entry)
    (typed : table.WellFormed ⊤ → ∀ entry ∈ made, (table.rule ⊤).entry entry) :
    Leads table (made.map .record) table made := by
  induction made with
  | nil => exact nil table
  | cons entry rest ih =>
      have first : Leads table [.record entry] table [entry] := by
        refine one (fun _ => rfl) (fun valid => .of_elements valid rfl) fun valid other member => ?_
        rw [List.mem_singleton.mp member]
        exact typed valid entry (by simp)
      exact first.append (ih fun valid other member => typed valid other (by simp [member]))

theorem recordings {α : Type} {table : SymbolTable} {good : α → Prop} {check : Logged α}
    (valid : table.WellFormed ⊤ → check.Yields (table.rule ⊤) good) :
    Leads table check.recordings table check.log.entries :=
  entries table check.log.entries fun tableValid => (valid tableValid).log.entries

end Leads

-- Where no bound is asked for, every annotation keeps to it.
theorem endpoints_lt_top (written : TypeExpr Node) :
    (written.endpoints.length : ℕ∞) < ⊤ := ENat.natCast_lt_top _

theorem declaration_leads (table : SymbolTable) (constancy : Constancy)
    (declaration : Declaration Node) :
    Leads table (declaration.steps table constancy) (declaration.check table constancy).value
      (declaration.check table constancy).log.entries := by
  have recorded : Leads table (declaration.check table constancy).recordings table
      (declaration.check table constancy).log.entries :=
    .recordings fun valid => declaration_yields valid constancy declaration (endpoints_lt_top _)
  have typed (valid : table.WellFormed ⊤) :=
    (type_expr_resolve_yields valid declaration.type (endpoints_lt_top _)).value
  rw [declaration_value, Declaration.steps, ← List.append_nil (Log.entries _)]
  apply recorded.append
  by_cases bound : (table.local? declaration.name.text).any (·.var.type?.isSome) = true
  · rw [if_pos bound, if_pos bound]
    exact .nil table
  · rw [if_neg bound, if_neg bound]
    exact .bind table declaration.name.text constancy.access typed

theorem targets_lead (table : SymbolTable) (targets : List (Expr Node × Option Ty))
    (typed : table.WellFormed ⊤ → ∀ target ∈ targets,
      IfKnown (·.WellFormed table.elements ⊤) target.2) :
    Leads table (targetSteps table targets) (table.declareTargets targets) [] := by
  induction targets generalizing table with
  | nil => exact .nil table
  | cons target rest ih =>
      obtain ⟨target, type?⟩ := target
      have same := ih table fun valid other member => typed valid other (by simp [member])
      change Leads table _ ((table.declareTarget target type?).declareTargets rest) []
      rw [targetSteps, SymbolTable.declareTarget]
      cases target.ident? with
      | none => exact same
      | some name =>
          dsimp only
          cases table.symbol? name.text with
          | some symbol => exact same
          | none =>
              refine (Leads.bind table name.text .readWrite fun valid => ?_).append (ih _ ?_)
              · exact typed valid (target, type?) (by simp)
              · intro valid other member
                rw [table.elements_bind]
                exact typed valid.of_bind other (by simp [member])

theorem assignment_leads (table : SymbolTable) (span : Span) (targets : List (Expr Node))
    (value : Expr Node) :
    Leads table
      ((checkTargets table span targets value).recordings ++
        targetSteps table (checkTargets table span targets value).value)
      (checkAssignment table span targets value).value
      (checkAssignment table span targets value).log.entries := by
  have checked (valid : table.WellFormed ⊤) := check_targets_yields valid span targets value
  exact (Leads.recordings checked).append (targets_lead table _ fun valid => (checked valid).value)

-- The condition of a loop or branch is recorded before its blocks and only reported after them.
theorem conditional_leads {table after : SymbolTable} (condition : Expr Node) {steps : List Step}
    {recorded : List Entry} (inner : Leads table.push steps after recorded) :
    Leads table ((condition.infer table .read).recordings ++ (.push :: (steps ++ [.pop])))
      after.pop ((condition.infer table .read).log.entries ++ recorded) := by
  have tested : Leads table (condition.infer table .read).recordings table
      (condition.infer table .read).log.entries :=
    .recordings fun valid => infer_yields valid .read condition
  have block := (Leads.push table).append (inner.append (.pop after))
  rw [List.append_nil, List.nil_append] at block
  exact tested.append block

theorem counted_leads {table after : SymbolTable} (counter : Name Node) {steps : List Step}
    {recorded : List Entry} (inner : Leads (table.bindCounter counter) steps after recorded) :
    Leads table (counterStep counter :: (steps ++ [.pop])) after.pop recorded := by
  have bound : Leads table [counterStep counter] (table.bindCounter counter) [] :=
    .bind table counter.text .read fun _ => ifKnown_some (Ty.wellFormed_ofScalar .int)
  have block := bound.append (inner.append (.pop after))
  rw [List.append_nil, List.nil_append] at block
  exact block

mutual
theorem stmt_leads (table : SymbolTable) (statement : Stmt Node) :
    Leads table (statement.steps table) (statement.check table).value
      (statement.check table).log.entries := by
  cases statement with
  | «variable» declaration => exact declaration_leads table .variable declaration
  | constant declaration => exact declaration_leads table .constant declaration
  | loop node condition body =>
      have walk := conditional_leads condition (block_leads table.push body)
      simpa [Stmt.check, Stmt.steps, Operand.expectCondition] using walk
  | branch node condition thenBlock elseBlock =>
      have taken := block_leads table.push thenBlock
      cases elseBlock with
      | none =>
          have walk := conditional_leads condition taken
          simpa [Stmt.check, Stmt.steps, Operand.expectCondition] using walk
      | some elseBlock =>
          have between := (Leads.pop (thenBlock.check table.push).value).append (.push _)
          have other := block_leads (thenBlock.check table.push).value.pop.push elseBlock
          have walk := conditional_leads condition (taken.append (between.append other))
          simpa [Stmt.check, Stmt.steps, Operand.expectCondition] using walk
  | forRange node counter domain lower upper body =>
      have bounds : Leads table.push (checkBounds table.push lower upper).recordings table.push
          (checkBounds table.push lower upper).log.entries :=
        .recordings fun valid => check_bounds_yields valid lower upper
      have counted := counted_leads counter (block_leads (table.push.bindCounter counter) body)
      have walk := (Leads.push table).append (bounds.append counted)
      simpa [Stmt.check, Stmt.steps] using walk
  | forSet node counter domain set body =>
      have counted := counted_leads counter (block_leads (table.push.bindCounter counter) body)
      have walk := (Leads.push table).append counted
      simpa [Stmt.check, Stmt.steps, Name.resolveIndexSet] using walk
  | print node value =>
      have walk : Leads table (checkPrint table value).recordings table
          (checkPrint table value).log.entries :=
        .recordings fun valid => print_yields valid value
      simpa [Stmt.check, Stmt.steps] using walk
  | assign node targets value =>
      have walk := assignment_leads table node.span targets value
      simpa [Stmt.check, Stmt.steps] using walk
  | eval node value =>
      have walk : Leads table (value.infer table .read).recordings table
          (value.infer table .read).log.entries :=
        .recordings fun valid => infer_yields valid .read value
      simpa [Stmt.check, Stmt.steps] using walk
theorem block_leads (table : SymbolTable) (block : Block Node) :
    Leads table (block.steps table) (block.check table).value (block.check table).log.entries := by
  obtain ⟨node, statements⟩ := block
  rw [Block.check, Block.steps]
  exact stmts_lead table statements
theorem stmts_lead (table : SymbolTable) (statements : List (Stmt Node)) :
    Leads table (stmtSteps table statements) (checkStmts table statements).value
      (checkStmts table statements).log.entries := by
  cases statements with
  | nil =>
      rw [checkStmts, stmtSteps]
      exact .nil table
  | cons statement rest =>
      rw [checkStmts, stmtSteps]
      exact (stmt_leads table statement).append (stmts_lead _ rest)
end

theorem element_leads (table : SymbolTable) (declaration : ElementDecl Node) :
    Leads table (declaration.steps table) (declaration.check table).value [] := by
  simp only [ElementDecl.steps, ElementDecl.check]
  simp only [Logged.value_bind]
  cases free : table.element? declaration.name.text with
  | some record => exact .nil table
  | none =>
      dsimp only
      let added : Element :=
        ⟨declaration.name.text, (checkFields table [] declaration.fields).value⟩
      rw [SymbolTable.add_element_free added free]
      refine Leads.unrecorded (fun _ => rfl) fun valid => ⟨?_, List.prefix_append ..⟩
      exact add_element_wellFormed valid added
        (check_fields_yields valid [] declaration.fields fun _ _ => endpoints_lt_top _).value

theorem external_leads (table : SymbolTable) (declaration : ExternalDecl Node) :
    Leads table (declaration.steps table) (declaration.check table).value [] := by
  have typed (valid : table.WellFormed ⊤) :=
    (type_expr_resolve_yields valid declaration.type (endpoints_lt_top _)).value
  simp only [ExternalDecl.steps, ExternalDecl.check]
  simp only [Logged.value_bind]
  cases table.symbol? declaration.name.text with
  | some symbol => exact .nil table
  | none => exact .bind table declaration.name.text .readWrite typed

theorem slots_lead (table : SymbolTable) (slots : List Slot) :
    Leads table (slotSteps table slots) (bindSlots table slots).value.1 [] := by
  induction slots generalizing table with
  | nil => exact .nil table
  | cons slot rest ih =>
      have typed (valid : table.WellFormed ⊤) :=
        (type_expr_resolve_yields valid slot.type (endpoints_lt_top _)).value
      simp only [slotSteps, bindSlots]
      simp only [Logged.value_bind]
      cases known : (slot.type.resolve table).value with
      | none => exact ih table
      | some type =>
          rw [known] at typed
          exact (Leads.bind table slot.name slot.access typed).append (ih _)

theorem register_leads (table : SymbolTable) (declaration : RoutineDecl Node)
    (parameters results : List (Option Var))
    (typed : ∀ var? ∈ parameters ++ results, IfKnown (fun var : Var =>
      ∀ type, var.type? = some type → type.WellFormed table.elements ⊤) var?) :
    Leads table (declaration.registerSteps table parameters results)
      (declaration.register table parameters results).value [] := by
  unfold RoutineDecl.registerSteps RoutineDecl.register
  dsimp only
  cases allParameters : allPresent parameters with
  | none => exact .nil table
  | some parameterVars =>
      cases allResults : allPresent results with
      | none => exact .nil table
      | some resultVars =>
          cases free : table.routine? declaration.name.text with
          | some routine => exact .nil table
          | none =>
              let added : Routine :=
                ⟨declaration.name.text, parameterVars, resultVars, .declared declaration.body⟩
              dsimp only
              rw [SymbolTable.add_routine_free added free]
              refine Leads.unrecorded (fun _ => rfl) fun valid => .of_elements ?_ rfl
              refine add_routine_wellFormed valid added fun var member => ?_
              rw [allPresent_eq_some allParameters, allPresent_eq_some allResults] at typed
              exact typed (some var) (by simpa using member) var rfl

theorem routine_leads {table : SymbolTable} (valid : table.WellFormed ⊤)
    (declaration : RoutineDecl Node) :
    Leads table (declaration.steps table) (declaration.check table).value
      (declaration.check table).log.entries := by
  let parameterSlots := declaration.parameters.map ParameterDecl.slot
  let resultSlots := declaration.results.map ResultDecl.slot
  let parameters := (bindSlots table.push parameterSlots).value
  let results := (bindSlots parameters.1 resultSlots).value
  let inner := (declaration.body.check results.1).value
  have head : SlotsValid ⊤ table.elements parameters :=
    (bind_slots_yields valid.push parameterSlots fun _ _ => endpoints_lt_top _).value
  have tail : SlotsValid ⊤ parameters.1.elements results :=
    (bind_slots_yields head.valid resultSlots fun _ _ => endpoints_lt_top _).value
  have kept : inner.pop.elements = parameters.1.elements :=
    (block_registries results.1 declaration.body).elements.trans tail.kept
  have registered : Leads inner.pop
      (declaration.registerSteps inner.pop parameters.2 results.2)
      (declaration.register inner.pop parameters.2 results.2).value [] := by
    refine register_leads inner.pop declaration _ _ fun var? member => ?_
    rw [kept]
    rcases List.mem_append.mp member with parameter | result
    · rw [head.kept]
      exact head.vars var? parameter
    · exact tail.vars var? result
  have walk := (Leads.push table).append ((slots_lead table.push parameterSlots).append
    ((slots_lead parameters.1 resultSlots).append
      ((block_leads results.1 declaration.body).append ((Leads.pop inner).append registered))))
  simpa [RoutineDecl.check, RoutineDecl.steps] using walk

theorem definition_leads {table : SymbolTable} (valid : table.WellFormed ⊤)
    (definition : Definition Node) :
    Leads table (definition.steps table) (definition.check table).value
      (definition.check table).log.entries := by
  cases definition with
  | element declaration =>
      have walk := element_leads table declaration
      simpa [Definition.check, Definition.steps] using walk
  | external declaration =>
      have walk := external_leads table declaration
      simpa [Definition.check, Definition.steps] using walk
  | routine declaration => exact routine_leads valid declaration
  | constant declaration => exact declaration_leads table .constant declaration
  | test declaration => exact .nil table

theorem definitions_lead {table : SymbolTable} (valid : table.WellFormed ⊤)
    (definitions : List (Definition Node)) :
    Leads table (definitionSteps table definitions) (checkDefinitions table definitions).value
      (checkDefinitions table definitions).log.entries := by
  induction definitions generalizing table with
  | nil => exact .nil table
  | cons definition rest ih =>
      have next := (definition_yields valid definition fun _ _ => endpoints_lt_top _).value.valid
      exact (definition_leads valid definition).append (ih next)

theorem routines_lead (table : SymbolTable) (added : List Routine)
    (typed : ∀ routine ∈ added, ∀ var ∈ routine.parameters ++ routine.results,
      ∃ component, var.type? = some (.ofScalar component)) :
    Leads table (added.map .routine) { table with routines := table.routines ++ added } [] := by
  induction added generalizing table with
  | nil => simpa using Leads.nil table
  | cons routine rest ih =>
      have first : Leads table [.routine routine]
          { table with routines := table.routines ++ [routine] } [] := by
        refine Leads.unrecorded (fun _ => rfl) fun valid => .of_elements ?_ rfl
        refine add_routine_wellFormed valid routine fun var member type known => ?_
        obtain ⟨component, scalar⟩ := typed routine (by simp) var member
        cases scalar.symm.trans known
        exact Ty.wellFormed_ofScalar component
      have walk := first.append (ih _ fun other member => typed other (by simp [member]))
      simpa using walk

theorem prelude_leads (intrinsics : Bool) :
    ∃ table, SymbolTable.initial intrinsics = .ok table ∧
      Leads (Moment.start intrinsics).table (preludeSteps intrinsics) table [] := by
  cases intrinsics with
  | false => exact ⟨_, rfl, .nil _⟩
  | true =>
      exact ⟨_, SymbolTable.prelude_registered,
        routines_lead _ prelude (intrinsic_typed 0 Intrinsic.all)⟩

theorem program_leads (program : Program Node) (intrinsics : Bool) :
    Leads (Moment.start intrinsics).table (program.steps intrinsics)
      (program.run intrinsics).value (program.run intrinsics).log.entries := by
  obtain ⟨table, set, first⟩ := prelude_leads intrinsics
  obtain ⟨initial, same, valid⟩ :
      ∃ table, SymbolTable.initial intrinsics = .ok table ∧ table.WellFormed ⊤ :=
    initial_wellFormed intrinsics
  cases set.symm.trans same
  have reached : (Moment.start intrinsics).after (preludeSteps intrinsics) = ⟨table, []⟩ :=
    first.reaches []
  simp only [Program.run, Program.steps]
  rw [set, SymbolTable.registering_ok, pure_bind, reached]
  exact first.append (definitions_lead valid program.definitions)

theorem start_wellFormed (intrinsics : Bool) : (Moment.start intrinsics).WellFormed := by
  refine moment_wellFormed_iff.mpr ⟨?_, fun _ made => (nomatch made)⟩
  exact registered_wellFormed empty_wellFormed rfl (List.prefix_refl _)
    (fun _ known => Or.inl known) fun _ known => Or.inl known

/--
The steps of a run lead to what the run leaves behind, and after every number of them all types that
are bound, recorded or registered are well formed.
-/
theorem moments_wellFormed (program : Program Node) (intrinsics : Bool) :
    (Moment.start intrinsics).after (program.steps intrinsics) =
        ⟨(program.run intrinsics).value, (program.run intrinsics).log.entries⟩ ∧
      ∀ done, done <+: program.steps intrinsics →
        ∀ type, ((Moment.start intrinsics).after done).Holds type →
          type.WellFormed ((Moment.start intrinsics).after done).table.elements ⊤ ∧
            ∀ shape, type = .tensor shape → shape.outer.length = shape.order := by
  have walk := program_leads program intrinsics
  have start := start_wellFormed intrinsics
  refine ⟨walk.reaches [], fun done early type held => ?_⟩
  have valid := walk.sound [] start done early type held
  refine ⟨valid, fun shape same => ?_⟩
  rw [same] at valid
  exact (Ty.wellFormed_tensor.mp valid).outer_length

theorem road_map_moments_wellFormed :
    ∃ done type, done <+: roadMap.steps true ∧ ((Moment.start true).after done).Holds type ∧
      type.WellFormed ((Moment.start true).after done).table.elements ⊤ := by
  let moment := (Moment.start true).after (roadMap.steps true)
  have bound : (moment.table.symbol? "roads").any (·.var.type?.isSome) = true := by
    decide +kernel
  obtain ⟨symbol, found, known⟩ := (Option.any_eq_true ..).mp bound
  obtain ⟨type, typed⟩ := Option.isSome_iff_exists.mp known
  obtain ⟨scope, live, member⟩ := SymbolTable.symbol?_mem found
  have held : moment.Holds type := .table type (.symbol scope live symbol member type typed)
  have whole := List.prefix_refl (roadMap.steps true)
  exact ⟨_, type, whole, held, ((moments_wellFormed roadMap true).2 _ whole type held).1⟩

end TensorLang
