import TensorLang.Proofs.Bindings
import TensorLang.Proofs.Follows

set_option autoImplicit false

namespace TensorLang

structure Symbol.Fades (first second : Symbol) : Prop where
  id : second.var.id = first.var.id
  name : second.var.name = first.var.name
  access : second.access = first.access
  type : TensorLang.Fades first.var.type? second.var.type?

-- Scopes are compared name by name, since a hidden binding can never be seen again.
structure Scope.Fades (first second : Scope) : Prop where
  id : second.id = first.id
  symbols : ∀ name, Option.Rel Symbol.Fades (first.symbol? name) (second.symbol? name)

-- The second table differs in nothing but types that have become unknown.
structure SymbolTable.Fades (first second : SymbolTable) : Prop where
  root : first.root.Fades second.root
  inner : List.Forall₂ Scope.Fades first.inner second.inner
  nextScope : second.nextScope = first.nextScope
  nextVar : second.nextVar = first.nextVar
  elements : second.elements = first.elements
  routines : second.routines = first.routines

theorem Symbol.Fades.refl (symbol : Symbol) : symbol.Fades symbol := ⟨rfl, rfl, rfl, .refl _⟩

theorem Symbol.Fades.typed {first second : Symbol} (faded : first.Fades second) {type : Ty}
    (typed : second.var.type? = some type) : second = first := by
  obtain ⟨⟨firstId, firstName, firstType⟩, firstAccess⟩ := first
  obtain ⟨⟨secondId, secondName, secondType⟩, secondAccess⟩ := second
  obtain ⟨id, name, access, known⟩ := faded
  dsimp only at id name access known typed
  rcases known with absent | same
  · rw [absent] at typed
    exact (nomatch typed)
  · rw [id, name, access, same]

theorem Scope.Fades.refl (scope : Scope) : scope.Fades scope := by
  refine ⟨rfl, fun name => ?_⟩
  cases scope.symbol? name with
  | none => exact .none
  | some symbol => exact .some (.refl symbol)

theorem Scope.Fades.insert {first second : Scope} (faded : first.Fades second)
    {symbol other : Symbol} (same : symbol.Fades other) :
    (first.insert symbol).Fades (second.insert other) := by
  refine ⟨faded.id, fun name => ?_⟩
  by_cases named : symbol.name = name
  · have othersName : other.name = name := same.name.trans named
    rw [← named, Scope.symbol?_insert_self, named, ← othersName, Scope.symbol?_insert_self]
    exact .some same
  · have othersName : other.name ≠ name := fun equal => named (same.name.symm.trans equal)
    rw [Scope.symbol?_insert_of_ne _ _ _ named, Scope.symbol?_insert_of_ne _ _ _ othersName]
    exact faded.symbols name

namespace SymbolTable.Fades

variable {first second : SymbolTable}

theorem refl (table : SymbolTable) : table.Fades table :=
  ⟨.refl _, List.forall₂_same.mpr fun _ _ => .refl _, rfl, rfl, rfl, rfl⟩

theorem scopes (faded : first.Fades second) :
    List.Forall₂ Scope.Fades first.scopes second.scopes :=
  List.rel_append faded.inner (.cons faded.root .nil)

theorem current (faded : first.Fades second) : first.current.Fades second.current := by
  obtain ⟨firstRoot, firstInner, _, _, _, _⟩ := first
  obtain ⟨secondRoot, secondInner, _, _, _, _⟩ := second
  have inner : List.Forall₂ Scope.Fades firstInner secondInner := faded.inner
  cases inner with
  | nil => exact faded.root
  | cons head _ => exact head

theorem found {scopes others : List Scope} (faded : List.Forall₂ Scope.Fades scopes others)
    (name : String) : Option.Rel Symbol.Fades (scopes.findSome? (·.symbol? name))
      (others.findSome? (·.symbol? name)) := by
  induction faded with
  | nil => exact .none
  | cons head _ ih =>
      rw [List.findSome?_cons, List.findSome?_cons]
      rcases rel_cases (head.symbols name) with ⟨bound, copied⟩ | ⟨_, _, bound, copied, known⟩
      · rw [bound, copied]
        exact ih
      · rw [bound, copied]
        exact .some known

theorem symbol (faded : first.Fades second) (name : String) :
    Option.Rel Symbol.Fades (first.symbol? name) (second.symbol? name) :=
  found faded.scopes name

theorem symbol_typed (faded : first.Fades second) {name : String} {symbol : Symbol}
    (copied : second.symbol? name = some symbol) {type : Ty}
    (typed : symbol.var.type? = some type) : first.symbol? name = some symbol := by
  rcases rel_cases (faded.symbol name) with ⟨_, absent⟩ | ⟨original, copy, bound, same, known⟩
  · rw [copied] at absent
    exact (nomatch absent)
  · cases copied.symm.trans same
    rw [bound, known.typed typed]

theorem element (faded : first.Fades second) (name : String) :
    second.element? name = first.element? name := by
  simp only [element?]
  rw [faded.elements]

theorem routine (faded : first.Fades second) (name : String) :
    second.routine? name = first.routine? name := by
  simp only [routine?]
  rw [faded.routines]

theorem push (faded : first.Fades second) : first.push.Fades second.push := by
  refine ⟨faded.root, .cons ?_ faded.inner, ?_, faded.nextVar, faded.elements, faded.routines⟩
  · rw [faded.nextScope]
    exact .refl _
  · exact congrArg (· + 1) faded.nextScope

theorem pop (faded : first.Fades second) : first.pop.Fades second.pop := by
  have inner : List.Forall₂ Scope.Fades first.inner.tail second.inner.tail := by
    simpa only [List.drop_one] using List.forall₂_drop 1 faded.inner
  exact ⟨faded.root, inner, faded.nextScope, faded.nextVar, faded.elements, faded.routines⟩

theorem insert (faded : first.Fades second) {symbol other : Symbol} (same : symbol.Fades other) :
    (first.insert symbol).Fades (second.insert other) := by
  obtain ⟨firstRoot, firstInner, _, _, _, _⟩ := first
  obtain ⟨secondRoot, secondInner, _, _, _, _⟩ := second
  obtain ⟨root, inner, nextScope, nextVar, elements, routines⟩ := faded
  dsimp only at root inner nextScope nextVar elements routines
  cases inner with
  | nil => exact ⟨root.insert same, .nil, nextScope, nextVar, elements, routines⟩
  | cons head rest =>
      exact ⟨root, .cons (head.insert same) rest, nextScope, nextVar, elements, routines⟩

theorem bind (faded : first.Fades second) (name : String) {type? copy? : Option Ty}
    (known : TensorLang.Fades type? copy?) (access : Access) :
    (first.bind name type? access).Fades (second.bind name copy? access) := by
  have symbol : Symbol.Fades ⟨first.fresh name type?, access⟩ ⟨second.fresh name copy?, access⟩ :=
    ⟨faded.nextVar, rfl, rfl, known⟩
  have inserted := faded.insert symbol
  exact ⟨inserted.root, inserted.inner, inserted.nextScope, congrArg (· + 1) faded.nextVar,
    inserted.elements, inserted.routines⟩

end SymbolTable.Fades

end TensorLang
