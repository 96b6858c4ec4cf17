import TensorLang.Proofs.CompletePrograms
import TensorLang.Proofs.Frames
import TensorLang.Proofs.Steps

set_option autoImplicit false

namespace TensorLang

namespace SymbolTable

theorem declare_target_gains (table : SymbolTable) (target : Expr Node) (type? : Option Ty) :
    table.Gains target.declares (table.declareTarget target type?) := by
  cases target with
  | ident name =>
      simp only [declareTarget, Expr.ident?, Expr.declares]
      cases table.symbol? name.text with
      | some symbol => exact .refl table _
      | none => exact .bind table name.text type? .readWrite
  | _ => exact .refl table _

theorem declare_targets_gain (table : SymbolTable) (targets : List (Expr Node × Option Ty)) :
    table.Gains (targets.flatMap fun target => target.1.declares)
      (table.declareTargets targets) := by
  induction targets generalizing table with
  | nil => exact .refl table _
  | cons target rest ih =>
      rw [List.flatMap_cons]
      exact (table.declare_target_gains target.1 target.2).trans (ih _)

end SymbolTable

theorem declaration_gains (table : SymbolTable) (constancy : Constancy)
    (declaration : Declaration Node) :
    table.Gains [declaration.name.text] (declaration.check table constancy).value := by
  rw [declaration_value]
  by_cases bound : (table.local? declaration.name.text).any (·.var.type?.isSome) = true
  · rw [if_pos bound]
    exact .refl table _
  · rw [if_neg bound]
    exact .bind table _ _ _

theorem assignment_gains (table : SymbolTable) (span : Span) (targets : List (Expr Node))
    (value : Expr Node) :
    table.Gains (targets.flatMap Expr.declares)
      (checkAssignment table span targets value).value := by
  have gained := table.declare_targets_gain (checkTargets table span targets value).value
  refine gained.mono fun name member => ?_
  obtain ⟨target, taken, declared⟩ := List.mem_flatMap.mp member
  exact List.mem_flatMap.mpr ⟨target.1, (List.of_mem_zip taken).1, declared⟩

mutual
theorem stmt_gains (table : SymbolTable) (statement : Stmt Node) :
    table.Gains statement.declares (statement.check table).value := by
  cases statement with
  | «variable» declaration => exact declaration_gains table .variable declaration
  | constant declaration => exact declaration_gains table .constant declaration
  | loop node condition body =>
      have left := (block_gains table.push body).leave
      rw [Stmt.check]
      exact .of_keeps left _
  | branch node condition thenBlock elseBlock =>
      have taken := (block_gains table.push thenBlock).leave
      cases elseBlock with
      | none =>
          rw [Stmt.check]
          exact .of_keeps taken _
      | some elseBlock =>
          have otherwise :=
            (block_gains (thenBlock.check table.push).value.pop.push elseBlock).leave
          rw [Stmt.check]
          exact .of_keeps (taken.trans otherwise) _
  | forRange node counter domain lower upper body =>
      have counted := SymbolTable.Gains.bind table.push counter.text (some .int) .read
      have left := (counted.trans (block_gains (table.push.bindCounter counter) body)).leave
      rw [Stmt.check]
      exact .of_keeps left _
  | forSet node counter domain set body =>
      have counted := SymbolTable.Gains.bind table.push counter.text (some .int) .read
      have left := (counted.trans (block_gains (table.push.bindCounter counter) body)).leave
      rw [Stmt.check]
      exact .of_keeps left _
  | print node value =>
      rw [Stmt.check]
      exact .refl table _
  | assign node targets value =>
      rw [Stmt.check]
      exact assignment_gains table node.span targets value
  | eval node value =>
      rw [Stmt.check]
      exact .refl table _
theorem block_gains (table : SymbolTable) (block : Block Node) :
    table.Gains (block.statements.flatMap Stmt.declares) (block.check table).value := by
  obtain ⟨node, statements⟩ := block
  rw [Block.check]
  exact stmts_gain table statements
theorem stmts_gain (table : SymbolTable) (statements : List (Stmt Node)) :
    table.Gains (statements.flatMap Stmt.declares) (checkStmts table statements).value := by
  cases statements with
  | nil =>
      rw [checkStmts]
      exact .refl table _
  | cons statement rest =>
      rw [checkStmts, List.flatMap_cons]
      exact (stmt_gains table statement).trans (stmts_gain _ rest)
end

theorem stmt_keeps (table : SymbolTable) {statement : Stmt Node}
    (silent : statement.declares = []) : table.Keeps (statement.check table).value := by
  have gained := stmt_gains table statement
  rw [silent] at gained
  exact gained.keeps

theorem bind_slots_gain (table : SymbolTable) (slots : List Slot) :
    table.Gains (slots.map Slot.name) (bindSlots table slots).value.1 := by
  induction slots generalizing table with
  | nil => exact .refl table _
  | cons slot rest ih =>
      rw [bindSlots, Logged.value_bind]
      cases (slot.type.resolve table).value with
      | none => exact (ih table).mono (List.subset_cons_self _ _)
      | some type => exact (SymbolTable.Gains.bind table slot.name _ slot.access).trans (ih _)

theorem bind_slots_vars {table : SymbolTable} {slots : List Slot} {vars : List Var}
    (bound : (bindSlots table slots).value.2 = vars.map some) :
    vars.map Var.name = slots.map Slot.name ∧ ∀ var ∈ vars, var.type?.isSome = true := by
  induction slots generalizing table vars with
  | nil =>
      cases vars with
      | nil => exact ⟨rfl, List.forall_mem_nil _⟩
      | cons var rest => cases bound
  | cons slot rest ih =>
      rw [bindSlots, Logged.value_bind] at bound
      cases known : (slot.type.resolve table).value with
      | none =>
          rw [known] at bound
          cases vars with
          | nil => cases bound
          | cons var others => cases bound
      | some type =>
          rw [known] at bound
          cases vars with
          | nil => cases bound
          | cons var others =>
              obtain ⟨first, later⟩ := List.cons.inj bound
              obtain ⟨names, typed⟩ := ih later
              rw [← Option.some.inj first]
              refine ⟨?_, List.forall_mem_cons.mpr ⟨rfl, typed⟩⟩
              rw [List.map_cons, List.map_cons, names]
              rfl

namespace RoutineDecl

theorem left_keeps (table : SymbolTable) (declaration : RoutineDecl Node) :
    table.Keeps (declaration.body.check (declaration.bodyTable table)).value.pop :=
  (((bind_slots_gain table.push _).trans (bind_slots_gain _ _)).trans
    (block_gains _ declaration.body)).leave

-- What a definition of a routine may add: nothing, or the routine that it describes.
structure MayRegister (declaration : RoutineDecl Node) (before after : SymbolTable) : Prop where
  scopes : after.scopes = before.scopes
  elements : after.elements = before.elements
  routines : after.routines = before.routines ∨
    ∃ routine : Routine, routine.Matches declaration ∧
      after.routines = before.routines ++ [routine]

theorem may_register_of_keeps {declaration : RoutineDecl Node} {before middle after : SymbolTable}
    (kept : before.Keeps middle) (registered : declaration.MayRegister middle after) :
    declaration.MayRegister before after := by
  obtain ⟨scopes, elements, routines⟩ := registered
  rw [kept.registries.routines] at routines
  exact ⟨scopes.trans kept.scopes, elements.trans kept.registries.elements, routines⟩

theorem register_may_register (table : SymbolTable) (declaration : RoutineDecl Node)
    {parameters? results? : List (Option Var)}
    (matched : ∀ parameters results, parameters? = parameters.map some →
      results? = results.map some →
      Routine.Matches ⟨declaration.name.text, parameters, results, .declared declaration.body⟩
        declaration) :
    declaration.MayRegister table (declaration.register table parameters? results?).value := by
  simp only [register]
  split
  · rename_i parameters results head tail
    have known := matched parameters results (allPresent_eq_some head) (allPresent_eq_some tail)
    cases found : table.routine? declaration.name.text with
    | some routine => exact ⟨rfl, rfl, Or.inl rfl⟩
    | none =>
        let routine : Routine :=
          ⟨declaration.name.text, parameters, results, .declared declaration.body⟩
        dsimp only
        rw [SymbolTable.add_routine_free routine found, SymbolTable.registering_ok]
        exact ⟨rfl, rfl, Or.inr ⟨routine, known, rfl⟩⟩
  · exact ⟨rfl, rfl, Or.inl rfl⟩

theorem check_may_register (table : SymbolTable) (declaration : RoutineDecl Node) :
    declaration.MayRegister table (declaration.check table).value := by
  refine may_register_of_keeps (declaration.left_keeps table) ?_
  refine register_may_register _ declaration fun parameters results head tail => ?_
  obtain ⟨parameterNames, parametersTyped⟩ := bind_slots_vars head
  obtain ⟨resultNames, resultsTyped⟩ := bind_slots_vars tail
  refine ⟨rfl, ?_, ?_, List.forall_mem_append.mpr ⟨parametersTyped, resultsTyped⟩, rfl⟩
  · rw [parameterNames, List.map_map]
    rfl
  · rw [resultNames, List.map_map]
    rfl

end RoutineDecl

theorem element_scopes (table : SymbolTable) (declaration : ElementDecl Node) :
    (declaration.check table).value.scopes = table.scopes := by
  rw [ElementDecl.check, Logged.value_bind]
  cases found : table.element? declaration.name.text with
  | some record => rfl
  | none =>
      dsimp only
      rw [SymbolTable.add_element_free _ found, SymbolTable.registering_ok]
      rfl

theorem external_gains (table : SymbolTable) (declaration : ExternalDecl Node) :
    table.Gains [declaration.name.text] (declaration.check table).value := by
  rw [ExternalDecl.check, Logged.value_bind]
  dsimp only
  cases table.symbol? declaration.name.text with
  | some symbol => exact .refl table _
  | none => exact .bind table _ _ _

theorem depth_of_scopes {before after : SymbolTable} (same : after.scopes = before.scopes) :
    after.depth = before.depth := by
  have lengths := congrArg List.length same
  rw [SymbolTable.scopes_length, SymbolTable.scopes_length] at lengths
  exact Nat.succ.inj lengths

theorem definition_depth (table : SymbolTable) (definition : Definition Node) :
    (definition.check table).value.depth = table.depth := by
  cases definition with
  | element declaration => exact depth_of_scopes (element_scopes table declaration)
  | external declaration => exact (external_gains table declaration).depth
  | routine declaration => exact depth_of_scopes (declaration.check_may_register table).scopes
  | constant declaration => exact (declaration_gains table .constant declaration).depth
  | test declaration => rfl

theorem definitions_depth (table : SymbolTable) (definitions : List (Definition Node)) :
    (checkDefinitions table definitions).value.depth = table.depth := by
  induction definitions generalizing table with
  | nil => rfl
  | cons definition rest ih =>
      rw [checkDefinitions, Logged.value_bind]
      exact (ih _).trans (definition_depth table definition)

theorem initial_scopes (intrinsics : Bool) :
    (SymbolTable.empty.registering (SymbolTable.initial intrinsics)).value.scopes =
      SymbolTable.empty.scopes := by
  cases intrinsics with
  | false => rfl
  | true =>
      rw [SymbolTable.initial, if_pos rfl, SymbolTable.prelude_registered,
        SymbolTable.registering_ok]
      rfl

theorem run_depth (program : Program Node) (intrinsics : Bool) :
    (program.run intrinsics).value.depth = 0 := by
  rw [Program.run, Logged.value_bind]
  have start : _ = SymbolTable.empty.depth := depth_of_scopes (initial_scopes intrinsics)
  exact (definitions_depth _ program.definitions).trans start

theorem recordings_table (moment : Moment) {α : Type} (check : Logged α) :
    (moment.after check.recordings).table = moment.table := by
  simp only [Moment.after, Logged.recordings]
  induction check.log.entries generalizing moment with
  | nil => rfl
  | cons entry rest ih =>
      rw [List.map_cons, List.foldl_cons]
      exact ih _

-- Scopes are closed the way they were opened, and a statement adds to its own scope at most.
theorem scope_discipline :
    (∀ (moment : Moment) (mode : Mode) (expression : Expr Node),
      (moment.after (expression.infer moment.table mode).recordings).table = moment.table) ∧
    (∀ (table : SymbolTable) (statement : Stmt Node),
      (statement.check table).value.depth = table.depth ∧
        table.Gains statement.declares (statement.check table).value) ∧
    (∀ (table : SymbolTable) (node : Node) (condition : Expr Node) (body : Block Node),
      table.Keeps ((Stmt.loop node condition body).check table).value) ∧
    (∀ (table : SymbolTable) (node : Node) (condition : Expr Node) (thenBlock : Block Node)
      (elseBlock : Option (Block Node)),
      table.Keeps ((Stmt.branch node condition thenBlock elseBlock).check table).value) ∧
    (∀ (table : SymbolTable) (node : Node) (counter : Name Node) (domain : Node)
      (lower upper : Expr Node) (body : Block Node),
      table.Keeps ((Stmt.forRange node counter domain lower upper body).check table).value) ∧
    (∀ (table : SymbolTable) (node : Node) (counter : Name Node) (domain : Node)
      (set : Name Node) (body : Block Node),
      table.Keeps ((Stmt.forSet node counter domain set body).check table).value) ∧
    (∀ (table : SymbolTable) (declaration : RoutineDecl Node),
      declaration.MayRegister table (declaration.check table).value) ∧
    ∀ (program : Program Node) (intrinsics : Bool), (program.run intrinsics).value.depth = 0 := by
  refine ⟨?_, ?_, ?_, ?_, ?_, ?_, RoutineDecl.check_may_register, run_depth⟩
  · exact fun moment mode expression => recordings_table moment _
  · exact fun table statement =>
      ⟨(stmt_gains table statement).depth, stmt_gains table statement⟩
  · exact fun table _ _ _ => stmt_keeps table rfl
  · exact fun table _ _ _ _ => stmt_keeps table rfl
  · exact fun table _ _ _ _ _ _ => stmt_keeps table rfl
  · exact fun table _ _ _ _ _ => stmt_keeps table rfl

end TensorLang
