import TensorLang.Proofs.Bindings
import TensorLang.Proofs.Promises
import TensorLang.Report

set_option autoImplicit false

namespace TensorLang

structure SymbolTable.SameRegistries (before after : SymbolTable) : Prop where
  elements : after.elements = before.elements
  routines : after.routines = before.routines

namespace SymbolTable

theorem SameRegistries.refl (table : SymbolTable) : table.SameRegistries table := ⟨rfl, rfl⟩

theorem SameRegistries.trans {first second third : SymbolTable}
    (left : first.SameRegistries second) (right : second.SameRegistries third) :
    first.SameRegistries third :=
  ⟨right.elements.trans left.elements, right.routines.trans left.routines⟩

theorem push_registries (table : SymbolTable) : table.SameRegistries table.push := ⟨rfl, rfl⟩

theorem pop_registries (table : SymbolTable) : table.SameRegistries table.pop := ⟨rfl, rfl⟩

theorem bind_registries (table : SymbolTable) (name : String) (type? : Option Ty)
    (access : Access) : table.SameRegistries (table.bind name type? access) :=
  ⟨table.elements_bind .., table.routines_bind ..⟩

theorem declare_targets_preserve {holds : SymbolTable → Prop}
    {targets : List (Expr Node × Option Ty)}
    (bound : ∀ target ∈ targets, ∀ table, holds table →
      ∀ name, holds (table.bind name target.2 .readWrite))
    {table : SymbolTable} (start : holds table) : holds (table.declareTargets targets) := by
  simp only [declareTargets]
  induction targets generalizing table with
  | nil => exact start
  | cons target rest ih =>
      obtain ⟨first, later⟩ := List.forall_mem_cons.mp bound
      apply ih later
      change holds (table.declareTarget target.1 target.2)
      simp only [declareTarget]
      cases target.1.ident? with
      | none => exact start
      | some name =>
          dsimp only
          cases table.symbol? name.text with
          | some symbol => exact start
          | none => exact first table start name.text

theorem declare_targets_registries (table : SymbolTable)
    (targets : List (Expr Node × Option Ty)) :
    table.SameRegistries (table.declareTargets targets) :=
  declare_targets_preserve (fun _ _ _ same _ => same.trans (bind_registries ..)) (.refl table)

end SymbolTable

theorem declaration_value (table : SymbolTable) (constancy : Constancy)
    (declaration : Declaration Node) :
    (declaration.check table constancy).value =
      if (table.local? declaration.name.text).any (·.var.type?.isSome) then table
      else
        table.bind declaration.name.text (declaration.type.resolve table).value
          constancy.access := by
  simp only [Declaration.check]
  simp only [Logged.value_bind]
  rw [table.binds_typed_promised, Logged.value_pure]
  split <;> rfl

theorem declaration_registries (table : SymbolTable) (constancy : Constancy)
    (declaration : Declaration Node) :
    table.SameRegistries (declaration.check table constancy).value := by
  rw [declaration_value]
  by_cases bound : (table.local? declaration.name.text).any (·.var.type?.isSome) = true
  · rw [if_pos bound]
    exact .refl table
  · rw [if_neg bound]
    exact table.bind_registries ..

mutual
theorem stmt_registries (table : SymbolTable) (statement : Stmt Node) :
    table.SameRegistries (statement.check table).value := by
  cases statement with
  | «variable» declaration => exact declaration_registries table .variable declaration
  | constant declaration => exact declaration_registries table .constant declaration
  | loop node condition body =>
      rw [Stmt.check]
      exact (table.push_registries.trans (block_registries table.push body)).trans
        (SymbolTable.pop_registries _)
  | branch node condition thenBlock elseBlock =>
      have taken := (table.push_registries.trans (block_registries table.push thenBlock)).trans
        (SymbolTable.pop_registries _)
      cases elseBlock with
      | none =>
          rw [Stmt.check]
          exact taken
      | some elseBlock =>
          rw [Stmt.check]
          exact ((taken.trans (SymbolTable.push_registries _)).trans
            (block_registries _ elseBlock)).trans (SymbolTable.pop_registries _)
  | forRange node counter domain lower upper body =>
      rw [Stmt.check]
      exact ((table.push_registries.trans (SymbolTable.bind_registries ..)).trans
        (block_registries _ body)).trans (SymbolTable.pop_registries _)
  | forSet node counter domain set body =>
      rw [Stmt.check]
      exact ((table.push_registries.trans (SymbolTable.bind_registries ..)).trans
        (block_registries _ body)).trans (SymbolTable.pop_registries _)
  | print node value =>
      rw [Stmt.check]
      exact .refl table
  | assign node targets value =>
      rw [Stmt.check]
      exact table.declare_targets_registries _
  | eval node value =>
      rw [Stmt.check]
      exact .refl table
theorem block_registries (table : SymbolTable) (block : Block Node) :
    table.SameRegistries (block.check table).value := by
  obtain ⟨node, statements⟩ := block
  rw [Block.check]
  exact stmts_registries table statements
theorem stmts_registries (table : SymbolTable) (statements : List (Stmt Node)) :
    table.SameRegistries (checkStmts table statements).value := by
  cases statements with
  | nil =>
      rw [checkStmts]
      exact .refl table
  | cons statement rest =>
      rw [checkStmts]
      exact (stmt_registries table statement).trans (stmts_registries _ rest)
end

theorem bind_slots_registries (table : SymbolTable) (slots : List Slot) :
    table.SameRegistries (bindSlots table slots).value.1 := by
  induction slots generalizing table with
  | nil => exact .refl table
  | cons slot rest ih =>
      rw [bindSlots]
      cases known : (slot.type.resolve table).value with
      | none =>
          rw [Logged.value_bind, known]
          exact ih table
      | some type =>
          rw [Logged.value_bind, known]
          exact (table.bind_registries ..).trans (ih _)

def RoutineDecl.bodyTable (table : SymbolTable) (declaration : RoutineDecl Node) : SymbolTable :=
  let parameters := bindSlots table.push (declaration.parameters.map ParameterDecl.slot)
  (bindSlots parameters.value.1 (declaration.results.map ResultDecl.slot)).value.1

theorem body_registries (table : SymbolTable) (declaration : RoutineDecl Node) :
    table.SameRegistries (declaration.body.check (declaration.bodyTable table)).value :=
  ((table.push_registries.trans (bind_slots_registries ..)).trans
    (bind_slots_registries ..)).trans (block_registries ..)

namespace SymbolTable

theorem add_element_free {table : SymbolTable} (record : Element)
    (free : table.element? record.name = none) :
    table.addElement record = .ok { table with elements := table.elements ++ [record] } := by
  simp only [addElement]
  rw [free]

theorem add_routine_free {table : SymbolTable} (routine : Routine)
    (free : table.routine? routine.name = none) :
    table.addRoutine routine = .ok { table with routines := table.routines ++ [routine] } := by
  simp only [addRoutine]
  rw [free]

theorem registering_ok (table next : SymbolTable) : table.registering (.ok next) = pure next := rfl

theorem add_routines_distinct (table : SymbolTable) (added : List Routine)
    (distinct : (added.map Routine.name).Nodup)
    (free : ∀ routine ∈ added, table.routine? routine.name = none) :
    added.foldlM addRoutine table =
      .ok { table with routines := table.routines ++ added } := by
  induction added generalizing table with
  | nil => simp [pure, Except.pure]
  | cons routine rest ih =>
      rw [List.map_cons, List.nodup_cons] at distinct
      obtain ⟨new, distinct⟩ := distinct
      rw [List.foldlM_cons, add_routine_free routine (free routine (by simp))]
      change rest.foldlM addRoutine { table with routines := table.routines ++ [routine] } = _
      rw [ih _ distinct, List.append_assoc]
      · rfl
      · intro later member
        have before := free later (by simp [member])
        have different : routine.name ≠ later.name := fun same =>
          new (same ▸ List.mem_map_of_mem member)
        simp only [routine?] at before ⊢
        simp [List.find?_append, before, different]

theorem prelude_registered :
    withPrelude = .ok { empty with
      nextVar := (Intrinsic.all.map Intrinsic.varCount).foldl Nat.add 0
      routines := prelude } :=
  add_routines_distinct _ prelude (by decide) fun _ _ => rfl

end SymbolTable

end TensorLang
