import TensorLang.Proofs.CarefulSteps
import TensorLang.Proofs.CompletePrograms
import TensorLang.Proofs.RecordedIds

set_option autoImplicit false

namespace TensorLang

open Logged

-- The registries have grown, and the root binds to the same symbols what it bound with a type.
structure SymbolTable.Extends (before after : SymbolTable) : Prop where
  elements : before.elements <+: after.elements
  routines : before.routines <+: after.routines
  bindings : ∀ name symbol, before.root.symbol? name = some symbol →
    symbol.var.type?.isSome = true → after.root.symbol? name = some symbol

namespace SymbolTable

namespace Extends

variable {first second third : SymbolTable}

theorem refl (table : SymbolTable) : table.Extends table :=
  ⟨List.prefix_refl _, List.prefix_refl _, fun _ _ found _ => found⟩

theorem trans (left : first.Extends second) (right : second.Extends third) :
    first.Extends third :=
  ⟨left.elements.trans right.elements, left.routines.trans right.routines,
    fun name symbol found typed =>
      right.bindings name symbol (left.bindings name symbol found typed) typed⟩

theorem of_scopes (scopes : second.scopes = first.scopes)
    (elements : first.elements <+: second.elements)
    (routines : first.routines <+: second.routines) : first.Extends second := by
  have root : second.root = first.root :=
    List.singleton_inj.mp (List.append_inj' scopes rfl).2
  refine ⟨elements, routines, fun name symbol found _ => ?_⟩
  rw [root]
  exact found

-- Only the root itself can lose a binding, and there the name has none of known type.
theorem bind (table : SymbolTable) {name : String} (free : table.fixes name = false)
    (type? : Option Ty) (access : Access) : table.Extends (table.bind name type? access) := by
  have same := table.bind_registries name type? access
  refine ⟨same.elements ▸ List.prefix_refl _, same.routines ▸ List.prefix_refl _,
    fun other symbol found typed => ?_⟩
  obtain ⟨root, inner, nextScope, nextVar, elements, routines⟩ := table
  cases inner with
  | cons scope outer => exact found
  | nil =>
      have different : name ≠ other := by
        intro same
        have bound : root.symbol? name = some symbol := same ▸ found
        have fixed := free
        simp only [fixes, local?, current, List.headD_nil] at fixed
        rw [bound, Option.any_some, typed] at fixed
        cases fixed
      let new : Symbol := ⟨⟨nextVar, name, type?⟩, access⟩
      exact (root.symbol?_insert_of_ne new other different).trans found

end Extends

end SymbolTable

variable (table : SymbolTable)

theorem element_extends (declaration : ElementDecl Node) :
    table.Extends (declaration.check table).value := by
  have scopes := element_scopes table declaration
  rw [ElementDecl.check, value_bind] at scopes ⊢
  cases found : table.element? declaration.name.text with
  | some record => exact .refl table
  | none =>
      dsimp only
      rw [SymbolTable.add_element_free _ found, SymbolTable.registering_ok]
      exact .of_scopes rfl (List.prefix_append ..) (List.prefix_refl _)

theorem external_extends (declaration : ExternalDecl Node) :
    table.Extends (declaration.check table).value := by
  rw [ExternalDecl.check, value_bind]
  dsimp only
  cases found : table.symbol? declaration.name.text with
  | some symbol => exact .refl table
  | none => exact .bind table (SymbolTable.fixes_of_unbound found) _ _

theorem routine_extends (declaration : RoutineDecl Node) :
    table.Extends (declaration.check table).value := by
  obtain ⟨scopes, elements, routines⟩ := declaration.check_may_register table
  refine .of_scopes scopes (elements ▸ List.prefix_refl _) ?_
  rcases routines with same | ⟨routine, _, added⟩
  · exact same ▸ List.prefix_refl _
  · exact added ▸ List.prefix_append ..

theorem constant_extends (declaration : Declaration Node) :
    table.Extends (declaration.check table .constant).value := by
  rw [declaration_value]
  by_cases bound : (table.local? declaration.name.text).any (·.var.type?.isSome) = true
  · rw [if_pos bound]
    exact .refl table
  · rw [if_neg bound]
    exact .bind table (Bool.eq_false_iff.mpr bound) _ _

theorem definition_extends (definition : Definition Node) :
    table.Extends (definition.check table).value := by
  cases definition with
  | element declaration => exact element_extends table declaration
  | external declaration => exact external_extends table declaration
  | routine declaration => exact routine_extends table declaration
  | constant declaration => exact constant_extends table declaration
  | test declaration => exact .refl table

theorem definitions_extend (definitions : List (Definition Node)) :
    table.Extends (checkDefinitions table definitions).value := by
  induction definitions generalizing table with
  | nil => exact .refl table
  | cons definition rest ih =>
      rw [checkDefinitions, value_bind]
      exact (definition_extends table definition).trans (ih _)

theorem definitions_append (early late : List (Definition Node)) :
    checkDefinitions table (early ++ late) =
      (do checkDefinitions (← checkDefinitions table early) late) := by
  induction early generalizing table with
  | nil => rfl
  | cons definition rest ih =>
      rw [List.cons_append, checkDefinitions, checkDefinitions, bind_assoc]
      exact congrArg _ (funext fun middle => ih middle)

theorem run_append (node : Node) (early late : List (Definition Node)) (intrinsics : Bool) :
    Program.run ⟨node, early ++ late⟩ intrinsics =
      (do checkDefinitions (← Program.run ⟨node, early⟩ intrinsics) late) := by
  simp only [Program.run]
  rw [bind_assoc]
  exact congrArg _ (funext fun table => definitions_append table early late)

def Definition.ids (definition : Definition Node) : List Nat :=
  definition.expressionIds ++ definition.partIds

theorem types_of_append (first second : List Entry) (table : SymbolTable)
    (errors : List TypeError) {id : Nat} (absent : id ∉ second.map Entry.id) :
    Report.types? ⟨errors, first ++ second, table⟩ id =
      Report.types? ⟨errors, first, table⟩ id := by
  have missed : second.reverse.find? (·.id == id) = none := by
    refine List.find?_eq_none.mpr fun entry member same => absent ?_
    rw [← eq_of_beq same]
    exact List.mem_map_of_mem (List.mem_reverse.mp member)
  simp only [Report.types?]
  rw [List.reverse_append, List.find?_append, missed, Option.none_or]

structure Report.Extends (ids : List Nat) (before after : Report) : Prop where
  errors : before.errors <+: after.errors
  elements : before.elements <+: after.elements
  routines : before.routines <+: after.routines
  types : ∀ id ∈ ids, after.types? id = before.types? id
  bindings : ∀ name symbol, before.table.root.symbol? name = some symbol →
    symbol.var.type?.isSome = true → after.table.root.symbol? name = some symbol

theorem report_extends {ids : List Nat} {first : Logged SymbolTable}
    (late : List (Definition Node))
    (apart : ∀ id ∈ ids, id ∉ late.flatMap Definition.expressionIds) :
    let later := do checkDefinitions (← first) late
    Report.Extends ids ⟨first.log.errors, first.log.entries, first.value⟩
      ⟨later.log.errors, later.log.entries, later.value⟩ := by
  intro later
  have extended := definitions_extend first.value late
  refine ⟨List.prefix_append .., extended.elements, extended.routines.filter _, fun id member => ?_,
    extended.bindings⟩
  have recorded := definitions_ids_sublist first.value late
  have absent : id ∉ (checkDefinitions first.value late).log.ids :=
    fun known => apart id member (recorded.subset known)
  exact types_of_append _ _ _ _ absent

-- A later definition adds errors, entries and items at the end, and takes no binding of known type
-- out of the root.
theorem later_definitions_keep (node : Node) (early late : List (Definition Node))
    (intrinsics : Bool) (distinct : ((early ++ late).flatMap Definition.ids).Nodup) :
    (∀ defect, Program.check ⟨node, early⟩ intrinsics = .error defect →
      Program.check ⟨node, early ++ late⟩ intrinsics = .error defect) ∧
    ∀ after, Program.check ⟨node, early ++ late⟩ intrinsics = .ok after →
      ∃ before, Program.check ⟨node, early⟩ intrinsics = .ok before ∧
        before.Extends (early.flatMap Definition.ids) after := by
  have apart : ∀ id ∈ early.flatMap Definition.ids,
      id ∉ late.flatMap Definition.expressionIds := by
    rw [List.flatMap_append] at distinct
    obtain ⟨_, _, separate⟩ := List.nodup_append.mp distinct
    intro id first second
    obtain ⟨definition, listed, inside⟩ := List.mem_flatMap.mp second
    have again : id ∈ late.flatMap Definition.ids :=
      List.mem_flatMap.mpr ⟨definition, listed, List.mem_append_left _ inside⟩
    exact separate id first id again rfl
  unfold Program.check
  dsimp only
  rw [run_append, log_bind, Log.defects_append]
  cases broken : (Program.run ⟨node, early⟩ intrinsics).log.defects with
  | cons defect rest =>
      exact ⟨fun _ same => same, fun _ succeeded => nomatch succeeded⟩
  | nil =>
      refine ⟨fun _ failed => (nomatch failed), fun after succeeded => ⟨_, rfl, ?_⟩⟩
      rw [List.nil_append] at succeeded
      split at succeeded
      · rw [← Except.ok.inj succeeded]
        exact report_extends late apart
      · exact (nomatch succeeded)

-- The external `limit`, declared twice, and a function that reads it; then a constant of that name,
-- which is rejected, and a procedure that assigns to it.
def limits : Program Node :=
  let name (text : String) : Name Place := ⟨none, text⟩
  let ident (text : String) : Expr Place := .ident (name text)
  let limit (component : Scalar) : Definition Place :=
    .external ⟨none, name "limit", .scalar none component⟩
  Program.numbered 0 ⟨none,
    [limit .int, limit .float,
      .routine ⟨none, .function, name "bound", [], [⟨none, name "result", .scalar none .int⟩],
        ⟨none, [.assign none [ident "result"] (ident "limit")]⟩⟩,
      .constant ⟨none, name "limit", .scalar none .float, some (.float none 2)⟩,
      .routine ⟨none, .procedure, name "raise", [], [],
        ⟨none, [.assign none [ident "limit"]
          (.binary none .add (ident "limit") (.int none 1))]⟩⟩]⟩

theorem limit_kept :
    let early := limits.definitions.take 3
    let late := limits.definitions.drop 3
    ((early ++ late).flatMap Definition.ids).Nodup ∧
      ∃ before after, Program.check ⟨limits.node, early⟩ true = .ok before ∧
        Program.check ⟨limits.node, early ++ late⟩ true = .ok after ∧
        before.Extends (early.flatMap Definition.ids) after ∧
        before.errors.length = 1 ∧ after.errors.length = 2 ∧
        (before.table.root.symbol? "limit").isSome = true ∧ after.routines.length = 2 := by
  intro early late
  have distinct : ((early ++ late).flatMap Definition.ids).Nodup := by decide +kernel
  let run := Program.run ⟨limits.node, early ++ late⟩ true
  have kept : run.log.defects = [] := by decide +kernel
  have checked : Program.check ⟨limits.node, early ++ late⟩ true =
      .ok ⟨run.log.errors, run.log.entries, run.value⟩ := by
    unfold Program.check
    dsimp only
    rw [show (Program.run ⟨limits.node, early ++ late⟩ true).log.defects = [] from kept]
  obtain ⟨before, earlier, extended⟩ :=
    (later_definitions_keep limits.node early late true distinct).2 _ checked
  refine ⟨distinct, before, _, earlier, checked, extended, ?_, by decide +kernel, ?_,
    by decide +kernel⟩
  · rw [report_of_check earlier]
    decide +kernel
  · rw [report_of_check earlier]
    decide +kernel

end TensorLang
