import Mathlib.Data.List.Nodup
import TensorLang.Proofs.CarefulSteps

set_option autoImplicit false

namespace TensorLang

open Logged

namespace SymbolTable

-- The live scopes have identities of their own, which have all been handed out.
structure ScopesApart (table : SymbolTable) : Prop where
  distinct : (table.scopes.map Scope.id).Nodup
  opened : ∀ id ∈ table.scopes.map Scope.id, id < table.nextScope

-- A live scope of that identity binds the name to the symbol, and no later scope has its identity.
structure Keeping (id : Nat) (name : String) (symbol : Symbol) (table : SymbolTable) : Prop where
  opened : id < table.nextScope
  bound : ∀ scope ∈ table.scopes, scope.id = id → scope.symbol? name = some symbol

theorem bind_nextScope (table : SymbolTable) (name : String) (type? : Option Ty)
    (access : Access) : (table.bind name type? access).nextScope = table.nextScope := by
  simp only [bind, insert]
  split <;> rfl

theorem bind_ids (table : SymbolTable) (name : String) (type? : Option Ty) (access : Access) :
    (table.bind name type? access).scopes.map Scope.id = table.scopes.map Scope.id := by
  obtain ⟨outer, before, after⟩ := table.scopes_bind name type? access
  rw [before, after]
  rfl

namespace ScopesApart

variable {table : SymbolTable}

theorem start (intrinsics : Bool) : (Moment.start intrinsics).table.ScopesApart := by
  refine ⟨List.nodup_singleton 0, fun id member => ?_⟩
  rw [List.mem_singleton.mp member]
  exact Nat.one_pos

theorem push (apart : table.ScopesApart) : table.push.ScopesApart := by
  obtain ⟨distinct, opened⟩ := apart
  constructor
  · rw [scopes_push, List.map_cons, List.nodup_cons]
    exact ⟨fun member => absurd (opened _ member) (Nat.lt_irrefl _), distinct⟩
  · rw [scopes_push, List.map_cons, List.forall_mem_cons]
    exact ⟨Nat.lt_succ_self _, fun id member => Nat.lt_succ_of_lt (opened id member)⟩

theorem pop (apart : table.ScopesApart) : table.pop.ScopesApart := by
  have fewer : table.pop.scopes.Sublist table.scopes :=
    (List.tail_sublist table.inner).append (List.Sublist.refl [table.root])
  have ids := fewer.map Scope.id
  exact ⟨apart.distinct.sublist ids, fun id member => apart.opened id (ids.subset member)⟩

theorem bind (apart : table.ScopesApart) (name : String) (type? : Option Ty) (access : Access) :
    (table.bind name type? access).ScopesApart := by
  obtain ⟨distinct, opened⟩ := apart
  constructor
  · rw [bind_ids]
    exact distinct
  · rw [bind_ids, bind_nextScope]
    exact opened

theorem step (apart : table.ScopesApart) (step : Step) :
    (step.perform ⟨table, []⟩).table.ScopesApart := by
  cases step with
  | record entry => exact apart
  | push => exact apart.push
  | bind name type? access => exact apart.bind name type? access
  | pop => exact apart.pop
  | element added => exact ⟨apart.distinct, apart.opened⟩
  | routine added => exact ⟨apart.distinct, apart.opened⟩

theorem through (apart : table.ScopesApart) (steps : List Step) :
    (table.through steps).ScopesApart := by
  induction steps generalizing table with
  | nil => exact apart
  | cons step rest ih =>
      rw [through_cons]
      exact ih (apart.step step)

end ScopesApart

namespace Keeping

variable {table : SymbolTable} {id : Nat} {name : String} {symbol : Symbol}

theorem of_live (apart : table.ScopesApart) {scope : Scope} (live : scope ∈ table.scopes)
    (found : scope.symbol? name = some symbol) : table.Keeping scope.id name symbol := by
  refine ⟨apart.opened _ (List.mem_map_of_mem live), fun other otherLive same => ?_⟩
  rw [List.inj_on_of_nodup_map apart.distinct otherLive live same]
  exact found

theorem push (keeping : table.Keeping id name symbol) : table.push.Keeping id name symbol := by
  refine ⟨Nat.lt_succ_of_lt keeping.opened, fun scope live same => ?_⟩
  rw [scopes_push] at live
  rcases List.mem_cons.mp live with new | old
  · rw [new] at same
    exact absurd same (Nat.ne_of_gt keeping.opened)
  · exact keeping.bound scope old same

theorem pop (keeping : table.Keeping id name symbol) : table.pop.Keeping id name symbol :=
  ⟨keeping.opened, fun scope live => keeping.bound scope (table.scopes_pop_subset live)⟩

-- A binding of another name, or in another scope, is no harm; a careful one is such a binding.
theorem bind (keeping : table.Keeping id name symbol) (typed : symbol.var.type?.isSome = true)
    {bound : String} (careful : bound = name → table.fixes name = false) (type? : Option Ty)
    (access : Access) : (table.bind bound type? access).Keeping id name symbol := by
  obtain ⟨outer, before, after⟩ := table.scopes_bind bound type? access
  refine ⟨?_, fun scope live same => ?_⟩
  · rw [bind_nextScope]
    exact keeping.opened
  rw [after] at live
  rcases List.mem_cons.mp live with changed | other
  · have current : table.current.symbol? name = some symbol := by
      apply keeping.bound table.current (by rw [before]; exact List.mem_cons_self)
      rw [changed] at same
      exact same
    have different : bound ≠ name := by
      intro same
      have fixed := careful same
      rw [SymbolTable.fixes, SymbolTable.local?, current, Option.any_some, typed] at fixed
      cases fixed
    let new : Symbol := ⟨table.fresh bound type?, access⟩
    rw [changed]
    exact (table.current.symbol?_insert_of_ne new name different).trans current
  · exact keeping.bound scope (by rw [before]; exact List.mem_cons_of_mem _ other) same

theorem step (keeping : table.Keeping id name symbol) (typed : symbol.var.type?.isSome = true)
    {step : Step} (careful : step.Careful name table) :
    (step.perform ⟨table, []⟩).table.Keeping id name symbol := by
  cases step with
  | record entry => exact keeping
  | push => exact keeping.push
  | bind bound type? access => exact keeping.bind typed careful type? access
  | pop => exact keeping.pop
  | element added => exact ⟨keeping.opened, keeping.bound⟩
  | routine added => exact ⟨keeping.opened, keeping.bound⟩

theorem through (keeping : table.Keeping id name symbol) (typed : symbol.var.type?.isSome = true)
    {steps : List Step} (careful : Careful name table steps) :
    (table.through steps).Keeping id name symbol := by
  induction steps generalizing table with
  | nil => exact keeping
  | cons step rest ih =>
      rw [through_cons]
      exact ih (keeping.step typed careful.1) careful.2

end Keeping

end SymbolTable

-- A second declaration in the same scope is reported, and changes nothing.
structure Rejects (table : SymbolTable) (span : Span) (name : String)
    (check : Logged SymbolTable) : Prop where
  reported : ⟨span, .redefined .variable name⟩ ∈ check.log.errors
  unchanged : check.value = table

theorem declaration_rejected {table : SymbolTable} (constancy : Constancy)
    {declaration : Declaration Node} (fixed : table.fixes declaration.name.text = true) :
    Rejects table declaration.node.span declaration.name.text
      (declaration.check table constancy) := by
  constructor
  · rw [Declaration.check, log_bind, log_bind]
    dsimp only
    rw [SymbolTable.fixes] at fixed
    rw [table.binds_typed_promised, pure_bind, if_pos fixed]
    simp [Logged.report]
  · rw [declaration_value]
    exact if_pos fixed

theorem external_rejected {table : SymbolTable} {declaration : ExternalDecl Node}
    (fixed : table.fixes declaration.name.text = true) :
    Rejects table declaration.node.span declaration.name.text (declaration.check table) := by
  have bound : ∃ symbol, table.symbol? declaration.name.text = some symbol := by
    by_contra free
    rw [not_exists, ← Option.eq_none_iff_forall_ne_some] at free
    rw [SymbolTable.fixes_of_unbound free] at fixed
    cases fixed
  obtain ⟨symbol, found⟩ := bound
  rw [ExternalDecl.check]
  constructor
  · rw [log_bind]
    dsimp only
    rw [found]
    simp [Logged.report]
  · rw [value_bind]
    dsimp only
    rw [found]
    rfl

-- A declaration that would replace a binding of known type in its own scope is reported instead.
-- Only the head of a routine that repeats a name binds it twice.
theorem typed_bindings_stable (program : Program Node) (intrinsics : Bool) (name : String)
    (once : ∀ declaration ∈ program.routines, declaration.slotNames.count name ≤ 1) :
    (Moment.start intrinsics).after (program.steps intrinsics) =
        ⟨(program.run intrinsics).value, (program.run intrinsics).log.entries⟩ ∧
      (∀ early late, early <+: late → late <+: program.steps intrinsics →
        ∀ scope ∈ ((Moment.start intrinsics).after early).table.scopes, ∀ symbol,
          scope.symbol? name = some symbol → symbol.var.type?.isSome = true →
            ∀ later ∈ ((Moment.start intrinsics).after late).table.scopes,
              later.id = scope.id → later.symbol? name = some symbol) ∧
      ∀ table : SymbolTable, table.fixes name = true →
        (∀ (constancy : Constancy) (declaration : Declaration Node),
          declaration.name.text = name →
            Rejects table declaration.node.span name (declaration.check table constancy)) ∧
        ∀ declaration : ExternalDecl Node, declaration.name.text = name →
          Rejects table declaration.node.span name (declaration.check table) := by
  refine ⟨(program_leads program intrinsics).reaches [], ?_, fun table fixed => ⟨?_, ?_⟩⟩
  · rintro early late ⟨between, rfl⟩ ⟨rest, whole⟩
    intro scope live symbol found typed later laterLive same
    have careful := program_careful program intrinsics once
    rw [← whole, careful_append, careful_append] at careful
    obtain ⟨⟨_, careful⟩, _⟩ := careful
    rw [after_table] at live laterLive
    rw [SymbolTable.through_append] at laterLive
    have apart := (SymbolTable.ScopesApart.start intrinsics).through early
    have keeping := SymbolTable.Keeping.of_live apart live found
    exact (keeping.through typed careful).bound later laterLive same
  · rintro constancy declaration rfl
    exact declaration_rejected constancy fixed
  · rintro declaration rfl
    exact external_rejected fixed

theorem ledger_amount_stable :
    (∀ declaration ∈ ledger.routines, declaration.slotNames.count "amount" ≤ 1) ∧
      ∃ early late, early <+: late ∧ late <+: ledger.steps false ∧ early.length < late.length ∧
        ∃ scope ∈ ((Moment.start false).after early).table.scopes,
          ∃ later ∈ ((Moment.start false).after late).table.scopes, ∃ symbol,
            scope.symbol? "amount" = some symbol ∧ symbol.var.type?.isSome = true ∧
              later.id = scope.id ∧ later.symbol? "amount" = some symbol := by
  have once : ∀ declaration ∈ ledger.routines, declaration.slotNames.count "amount" ≤ 1 := by
    decide +kernel
  let early := (ledger.steps false).take 3
  let late := (ledger.steps false).take 8
  let scope := ((Moment.start false).after early).table.current
  let later := ((Moment.start false).after late).table.current
  have live : scope ∈ ((Moment.start false).after early).table.scopes := by
    rw [SymbolTable.scopes_current]
    exact List.mem_cons_self
  have laterLive : later ∈ ((Moment.start false).after late).table.scopes := by
    rw [SymbolTable.scopes_current]
    exact List.mem_cons_self
  have bound : (scope.symbol? "amount").any (·.var.type?.isSome) = true := by decide +kernel
  have same : later.id = scope.id := by decide +kernel
  have longer : early.length < late.length := by decide +kernel
  have inside : early <+: late := List.take_prefix_take_left (by decide)
  have reached : late <+: ledger.steps false := List.take_prefix 8 _
  obtain ⟨symbol, found, typed⟩ := (Option.any_eq_true ..).mp bound
  have stable := (typed_bindings_stable ledger false "amount" once).2.1 early late inside reached
    scope live symbol found typed later laterLive same
  exact ⟨once, early, late, inside, reached, longer, scope, live, later, laterLive, symbol, found,
    typed, same, stable⟩

def repeatedParameter : Program Node :=
  let name (text : String) : Name Place := ⟨none, text⟩
  let parameter (type : Scalar) : ParameterDecl Place :=
    ⟨none, name "p", false, .scalar none type⟩
  Program.numbered 0 ⟨none,
    [.routine ⟨none, .procedure, name "show", [parameter .int, parameter .float], [],
      ⟨none, [.print none (.ident (name "p"))]⟩⟩]⟩

-- The second one takes the place of the first in the scope of the procedure, without a report.
theorem repeated_parameter_replaces :
    let binding (done : Nat) :=
      let moment := (Moment.start false).after ((repeatedParameter.steps false).take done)
      moment.table.scopes.map fun scope =>
        (scope.id, (scope.symbol? "p").map fun symbol =>
          (symbol.var.id, symbol.var.type?.map Ty.text))
    (repeatedParameter.run false).log.errors = [] ∧
      binding 2 = [(1, some (0, some "int")), (0, none)] ∧
      binding 3 = [(1, some (1, some "float")), (0, none)] := by
  decide +kernel

end TensorLang
