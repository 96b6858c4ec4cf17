import TensorLang.Proofs.Registries
import TensorLang.Tree.Names

set_option autoImplicit false

namespace TensorLang

namespace SymbolTable

-- Nothing is different but the counters.
structure Keeps (before after : SymbolTable) : Prop where
  scopes : after.scopes = before.scopes
  registries : before.SameRegistries after

-- The current scope may have new bindings, which are of the given names.
structure Gains (before : SymbolTable) (names : List String) (after : SymbolTable) : Prop where
  scopes : ∃ added : List Symbol, (∀ symbol ∈ added, symbol.name ∈ names) ∧
    after.scopes =
      { before.current with symbols := added ++ before.current.symbols } :: before.scopes.tail
  registries : before.SameRegistries after

theorem scopes_current (table : SymbolTable) : table.scopes = table.current :: table.scopes.tail := by
  obtain ⟨root, inner, nextScope, nextVar, elements, routines⟩ := table
  cases inner <;> rfl

theorem symbol?_current (table : SymbolTable) (name : String) :
    table.symbol? name =
      (table.current.symbol? name).or (table.scopes.tail.findSome? (·.symbol? name)) := by
  simp only [symbol?]
  rw [scopes_current table, List.findSome?_cons]
  cases table.current.symbol? name <;> rfl

theorem scopes_length (table : SymbolTable) : table.scopes.length = table.depth + 1 := by
  simp [scopes, depth]

namespace Keeps

variable {first second third : SymbolTable}

theorem refl (table : SymbolTable) : table.Keeps table := ⟨rfl, .refl table⟩

theorem trans (left : first.Keeps second) (right : second.Keeps third) : first.Keeps third :=
  ⟨right.scopes.trans left.scopes, left.registries.trans right.registries⟩

theorem current (kept : first.Keeps second) : second.current = first.current := by
  have same := kept.scopes
  rw [scopes_current first, scopes_current second] at same
  exact (List.cons.inj same).1

theorem inner (kept : first.Keeps second) : second.inner = first.inner :=
  (List.append_inj' kept.scopes rfl).1

theorem root (kept : first.Keeps second) : second.root = first.root :=
  List.singleton_inj.mp (List.append_inj' kept.scopes rfl).2

theorem depth (kept : first.Keeps second) : second.depth = first.depth :=
  congrArg List.length kept.inner

end Keeps

namespace Gains

variable {first second third : SymbolTable} {names others : List String}

theorem of_keeps (kept : first.Keeps second) (names : List String) : first.Gains names second := by
  refine ⟨⟨[], fun _ member => (nomatch member), ?_⟩, kept.registries⟩
  rw [kept.scopes]
  exact first.scopes_current

theorem refl (table : SymbolTable) (names : List String) : table.Gains names table :=
  of_keeps (.refl table) names

theorem current (gained : first.Gains names second) :
    ∃ added : List Symbol, (∀ symbol ∈ added, symbol.name ∈ names) ∧
      second.current = { first.current with symbols := added ++ first.current.symbols } := by
  obtain ⟨added, declared, scopes⟩ := gained.scopes
  rw [scopes_current second] at scopes
  exact ⟨added, declared, (List.cons.inj scopes).1⟩

theorem below (gained : first.Gains names second) : second.scopes.tail = first.scopes.tail := by
  obtain ⟨added, _, scopes⟩ := gained.scopes
  rw [scopes, List.tail_cons]

theorem depth (gained : first.Gains names second) : second.depth = first.depth := by
  have same := congrArg List.length gained.below
  have before := first.scopes_length
  have after := second.scopes_length
  simp only [List.length_tail] at same
  omega

theorem trans (left : first.Gains names second) (right : second.Gains others third) :
    first.Gains (names ++ others) third := by
  obtain ⟨early, earlyNames, middle⟩ := left.current
  obtain ⟨late, lateNames, last⟩ := right.scopes
  refine ⟨⟨late ++ early, ?_, ?_⟩, left.registries.trans right.registries⟩
  · intro symbol member
    rcases List.mem_append.mp member with new | old
    · exact List.mem_append_right names (lateNames symbol new)
    · exact List.mem_append_left others (earlyNames symbol old)
  · rw [last, middle, left.below, List.append_assoc]

theorem mono (gained : first.Gains names second) (more : names ⊆ others) :
    first.Gains others second := by
  obtain ⟨added, declared, scopes⟩ := gained.scopes
  exact ⟨⟨added, fun symbol member => more (declared symbol member), scopes⟩, gained.registries⟩

theorem bind (table : SymbolTable) (name : String) (type? : Option Ty) (access : Access) :
    table.Gains [name] (table.bind name type? access) := by
  obtain ⟨outer, before, after⟩ := table.scopes_bind name type? access
  refine ⟨⟨[⟨table.fresh name type?, access⟩], ?_, ?_⟩, table.bind_registries name type? access⟩
  · intro symbol member
    rw [List.mem_singleton.mp member]
    exact List.mem_singleton.mpr rfl
  · rw [after, before, List.tail_cons]
    rfl

theorem keeps (gained : first.Gains [] second) : first.Keeps second := by
  obtain ⟨added, declared, scopes⟩ := gained.scopes
  have none : added = [] := List.eq_nil_iff_forall_not_mem.mpr fun symbol member =>
    (nomatch declared symbol member)
  refine ⟨?_, gained.registries⟩
  rw [scopes, none]
  exact first.scopes_current.symm

theorem leave (gained : first.push.Gains names second) : first.Keeps second.pop := by
  have below : second.scopes.tail = first.scopes := by
    rw [gained.below, scopes_push, List.tail_cons]
  refine ⟨?_, ?_⟩
  · have deep : second.depth = first.depth + 1 := gained.depth
    obtain ⟨root, inner, nextScope, nextVar, elements, routines⟩ := second
    cases inner with
    | nil => exact absurd deep (by simp [SymbolTable.depth])
    | cons scope outer => exact below
  · exact (first.push_registries.trans gained.registries).trans second.pop_registries

theorem symbol? (gained : first.Gains names second) :
    ∃ added : List Symbol, (∀ symbol ∈ added, symbol.name ∈ names) ∧
      ∀ name, second.symbol? name = (added.find? (·.name == name)).or (first.symbol? name) := by
  obtain ⟨added, declared, grown⟩ := gained.current
  have lookup (name : String) : second.current.symbol? name =
      (added.find? (·.name == name)).or (first.current.symbol? name) := by
    rw [grown]
    exact List.find?_append
  refine ⟨added, declared, fun name => ?_⟩
  rw [symbol?_current second, symbol?_current first, lookup, gained.below, Option.or_assoc]

theorem bound (gained : first.Gains names second) {name : String}
    (found : (first.symbol? name).isSome = true) : (second.symbol? name).isSome = true := by
  obtain ⟨added, _, lookup⟩ := gained.symbol?
  rw [lookup, Option.isSome_or, found, Bool.or_true]

theorem new_or_old (gained : first.Gains names second) {name : String}
    (found : (second.symbol? name).isSome = true) :
    name ∈ names ∨ (first.symbol? name).isSome = true := by
  obtain ⟨added, declared, lookup⟩ := gained.symbol?
  rw [lookup, Option.isSome_or, Bool.or_eq_true] at found
  rcases found with new | old
  · obtain ⟨symbol, known⟩ := Option.isSome_iff_exists.mp new
    have named : symbol.name = name := by simpa using List.find?_some known
    exact Or.inl (named ▸ declared symbol (List.mem_of_find?_eq_some known))
  · exact Or.inr old

end Gains

theorem symbol?_bind (table : SymbolTable) (name : String) (type? : Option Ty) (access : Access)
    (other : String) :
    (table.bind name type? access).symbol? other =
      if name = other then some ⟨table.fresh name type?, access⟩ else table.symbol? other := by
  obtain ⟨outer, before, after⟩ := table.scopes_bind name type? access
  let symbol : Symbol := ⟨table.fresh name type?, access⟩
  simp only [symbol?]
  rw [after, before, List.findSome?_cons, List.findSome?_cons]
  by_cases same : name = other
  · have self : (table.current.insert symbol).symbol? name = some symbol :=
      table.current.symbol?_insert_self symbol
    rw [if_pos same, ← same, self]
  · rw [if_neg same, table.current.symbol?_insert_of_ne symbol other same]

theorem bind_bound (table : SymbolTable) (name : String) (type? : Option Ty) (access : Access) :
    ((table.bind name type? access).symbol? name).isSome = true := by
  rw [symbol?_bind, if_pos rfl]
  rfl

end SymbolTable

end TensorLang
