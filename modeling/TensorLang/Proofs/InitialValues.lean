import TensorLang.Proofs.Agreement
import TensorLang.Proofs.Entries
import TensorLang.Proofs.Sameness

set_option autoImplicit false

namespace TensorLang

open Logged

-- The current scope does not bind the name to a known type.
def SymbolTable.Admits (table : SymbolTable) (name : String) : Prop :=
  ∀ symbol, table.local? name = some symbol → symbol.var.type? = none

theorem local?_bind_self (table : SymbolTable) (name : String) (type? : Option Ty)
    (access : Access) :
    (table.bind name type? access).local? name = some ⟨table.fresh name type?, access⟩ := by
  obtain ⟨outer, _, after⟩ := table.scopes_bind name type? access
  rw [SymbolTable.scopes_current] at after
  rw [SymbolTable.local?, (List.cons.inj after).1]
  exact table.current.symbol?_insert_self ⟨table.fresh name type?, access⟩

theorem declaration_unhindered (table : SymbolTable) (constancy : Constancy)
    (declaration : Declaration Node)
    (free : table.Admits declaration.name.text) :
    declaration.check table constancy = (do
      let declared? ← declaration.type.resolve table
      let found? ← Expr.inferValue table declaration.value
      constancy.checkValue declaration.node.span declared? found?
      return table.bind declaration.name.text declared? constancy.access) := by
  have untyped : (table.local? declaration.name.text).any (·.var.type?.isSome) = false := by
    cases bound : table.local? declaration.name.text with
    | none => rfl
    | some symbol => simp [free symbol bound]
  simp only [Declaration.check]
  rw [table.binds_typed_promised, untyped]
  rfl

theorem declaration_hindered (table : SymbolTable) (constancy : Constancy)
    (declaration : Declaration Node) (taken : ¬ table.Admits declaration.name.text) :
    declaration.check table constancy = (do
      let _ ← declaration.type.resolve table
      let _ ← Expr.inferValue table declaration.value
      Logged.report declaration.node.span (.redefined .variable declaration.name.text)
      return table) := by
  obtain ⟨symbol, bound, typed⟩ : ∃ symbol, table.local? declaration.name.text = some symbol ∧
      symbol.var.type? ≠ none := by
    simpa [SymbolTable.Admits] using taken
  have known : (table.local? declaration.name.text).any (·.var.type?.isSome) = true := by
    simpa [bound, Option.isSome_iff_ne_none] using typed
  simp only [Declaration.check]
  rw [table.binds_typed_promised, known]
  rfl

theorem assignment_to_bound {table : SymbolTable} {target : Name Node} {symbol : Symbol}
    {declared : Ty} (bound : table.symbol? target.text = some symbol)
    (writable : symbol.access = .readWrite) (typed : symbol.var.type? = some declared)
    (span : Span) (value : Expr Node) :
    checkAssignment table span [.ident target] value = (do
      let found? ← value.infer table .read
      Logged.record target.node.id (some [declared])
      Logged.reportAll
        (found?.elim [] (assignmentErrors span [⟨target.node.span, some declared⟩]))
      return table) := by
  have checked : (Expr.ident target).checkTarget table = (do
      Logged.record target.node.id (some [declared])
      return ⟨target.node.span, some declared⟩) := by
    rw [Expr.checkTarget, Expr.infer, target.infer_promised, bound]
    simp only [writable, typed]
    rfl
  have kept (types : List (Option Ty)) :
      table.declareTargets ([.ident target].zip types) = table := by
    cases types with
    | nil => rfl
    | cons type? rest =>
        rw [List.zip_cons_cons, List.zip_nil_left]
        simp only [SymbolTable.declareTargets, SymbolTable.declareTarget, Expr.ident?, bound,
          List.foldl_cons, List.foldl_nil]
  simp only [checkAssignment, checkTargets, List.mapM_cons, List.mapM_nil, checked, bind_assoc,
    pure_bind, kept]

-- The rules compare the types in opposite orders.
theorem Ty.startsAs_eq_canBecome (type value : Ty) :
    type.startsAs value = type.canBecome value :=
  congrArg (· || _) BEq.comm

theorem value_judged_alike (declared : Ty) (found? : Outcome) (declaration assignment : Span)
    (target : Span) :
    (Constancy.variable.checkValue declaration (some declared) found?).log.errors.length =
      (found?.elim [] (assignmentErrors assignment [⟨target, some declared⟩])).length := by
  match found? with
  | none => rfl
  | some [] => rfl
  | some [found] =>
      have alike := declared.startsAs_eq_canBecome found
      cases taken : declared.canBecome found <;>
        simp [Constancy.checkValue, Constancy.takes, Ty.takes, isSingle, assignmentErrors,
          Target.error?, alike, taken]
  | some (first :: second :: rest) =>
      simp [Constancy.checkValue, Constancy.takes, Ty.takes, isSingle, assignmentErrors]

/--
The statements stand for `x: T = e`, and for `x: T` followed by `x = e`. The runs have the same
entries, but that the second one also records the type of the target.
-/
theorem initializing_declares_then_assigns (table : SymbolTable) (x : String)
    (whole name first again second target : Node) (type : TypeExpr Node) (value : Expr Node)
    (declared : Ty) (resolved : (type.resolve table).value = some declared)
    (unmentioned : .variable x ∉ value.mentions)
    (free : table.Admits x) :
    let initializing := (Stmt.variable ⟨whole, ⟨name, x⟩, type, some value⟩).check table
    let assigning := checkStmts table
      [.variable ⟨first, ⟨again, x⟩, type, none⟩, .assign second [.ident ⟨target, x⟩] value]
    assigning.log.errors.length = initializing.log.errors.length ∧
      initializing.log.entries = (value.infer table .read).log.entries ∧
      assigning.log.entries = initializing.log.entries ++ [⟨target.id, [declared]⟩] ∧
      assigning.value = initializing.value ∧
      ∃ symbol, initializing.value.local? x = some symbol ∧
        symbol.var.type? = some declared ∧ symbol.access = .readWrite := by
  intro initializing assigning
  let bound := table.bind x (some declared) .readWrite
  have current : bound.local? x = some ⟨table.fresh x (some declared), .readWrite⟩ :=
    local?_bind_self table x (some declared) .readWrite
  have unseen : value.infer bound .read = value.infer table .read :=
    infer_agrees (bind_same_names table unmentioned (some declared) .readWrite) .read value
      (List.Subset.refl _)
  have initialized : initializing = (do
      let _ ← type.resolve table
      let found? ← value.infer table .read
      Constancy.variable.checkValue whole.span (some declared) found?
      return bound) :=
    (declaration_unhindered table .variable ⟨whole, ⟨name, x⟩, type, some value⟩ free).trans
      (bind_known resolved _)
  have declaring : (Stmt.variable ⟨first, ⟨again, x⟩, type, none⟩).check table = (do
      let _ ← type.resolve table
      return bound) :=
    (declaration_unhindered table .variable ⟨first, ⟨again, x⟩, type, none⟩ free).trans
      (bind_known resolved _)
  have assigned : assigning = (do
      let _ ← type.resolve table
      let found? ← value.infer table .read
      Logged.record target.id (some [declared])
      Logged.reportAll
        (found?.elim [] (assignmentErrors second.span [⟨target.span, some declared⟩]))
      return bound) := by
    let written : Name Node := ⟨target, x⟩
    have found : bound.symbol? written.text = some ⟨table.fresh x (some declared), .readWrite⟩ :=
      SymbolTable.symbol_of_local current
    have assignment := assignment_to_bound found rfl rfl second.span value
    simp only [assigning, checkStmts, declaring, bind_assoc, pure_bind, bind_pure]
    rw [Stmt.check, assignment, unseen]
  have alike := value_judged_alike declared (value.infer table .read).value whole.span second.span
    target.span
  have unannotated : (type.resolve table).log.entries = [] :=
    Log.View.entries.part_annotated table type
  have unrecorded : (Constancy.variable.checkValue whole.span (some declared)
      (value.infer table .read).value).log.entries = [] :=
    Log.View.entries.part_check_value ..
  rw [initialized, assigned]
  refine ⟨?_, ?_, ?_, rfl, _, current, rfl, rfl⟩
  · simp [alike]
  · simp [unannotated, unrecorded]
  · simp [unannotated, unrecorded]

theorem total_initialized :
    let node (id : Nat) : Node := ⟨id, .origin⟩
    let table :=
      (SymbolTable.empty.bind "rate" (some .int) .readWrite).bind "total" none .readWrite
    let type : TypeExpr Node :=
      .tensor (node 0) [.range (node 1) 2] (.scalar (node 2) .int) false
    let value : Expr Node := .ident ⟨node 3, "rate"⟩
    let declared : Ty := .tensor ⟨.int, [[.range 2]], false⟩
    let initializing :=
      (Stmt.variable ⟨node 4, ⟨node 5, "total"⟩, type, some value⟩).check table
    let assigning := checkStmts table
      [.variable ⟨node 6, ⟨node 7, "total"⟩, type, none⟩,
        .assign (node 8) [.ident ⟨node 9, "total"⟩] value]
    (type.resolve table).value = some declared ∧ .variable "total" ∉ value.mentions ∧
      table.Admits "total" ∧
      initializing.log.errors.length = 0 ∧
      assigning.log.errors.length = initializing.log.errors.length ∧
      initializing.log.entries = (value.infer table .read).log.entries ∧
      assigning.log.entries = initializing.log.entries ++ [⟨9, [declared]⟩] ∧
      assigning.value = initializing.value ∧
      ∃ symbol, initializing.value.local? "total" = some symbol ∧
        symbol.var.type? = some declared ∧ symbol.access = .readWrite := by
  intro node table type value declared initializing assigning
  have unmentioned : .variable "total" ∉ value.mentions := by decide +kernel
  have free : table.Admits "total" := by
    rintro _ ⟨⟩
    rfl
  exact ⟨rfl, unmentioned, free, by decide +kernel,
    initializing_declares_then_assigns table "total" (node 4) (node 5) (node 6) (node 7) (node 8)
      (node 9) type value declared rfl unmentioned free⟩

end TensorLang
