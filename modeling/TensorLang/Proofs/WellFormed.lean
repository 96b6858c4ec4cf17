import Mathlib.Data.ENat.Basic
import TensorLang.Proofs.Bindings
import TensorLang.Proofs.Logged
import TensorLang.Proofs.Regular
import TensorLang.Typing.Operand

set_option autoImplicit false

namespace TensorLang

def Element.Registered (elements : List Element) (record : Element) : Prop :=
  elements.find? (·.name == record.name) = some record

theorem Element.Registered.mono {elements later : List Element} {record : Element}
    (known : record.Registered elements) (grown : elements <+: later) :
    record.Registered later := by
  obtain ⟨added, rfl⟩ := grown
  simp only [Registered] at known ⊢
  rw [List.find?_append, known, Option.some_or]

def Var.IsSet (var : Var) : Prop :=
  ∃ member endpoints, var.type? = some (.set member endpoints)

namespace Ty

inductive WellFormed (elements : List Element) (limit : ℕ∞) : Ty → Prop where
  | tensor (shape : TensorType Var) (regular : shape.Regular Var.IsSet)
      (deep : ∀ axis ∈ shape.axes, ∀ var, IndexSet.set var ∈ axis → ∀ type,
        var.type? = some type → type.WellFormed elements limit) :
      (Ty.tensor shape).WellFormed elements limit
  | set (record : Element) (endpoints : List Var) (registered : record.Registered elements)
      (few : endpoints.length < limit) (sets : ∀ var ∈ endpoints, var.IsSet)
      (deep : ∀ var ∈ endpoints, ∀ type, var.type? = some type →
        type.WellFormed elements limit) :
      (Ty.set (.element record) endpoints).WellFormed elements limit
  | tuple (record : Element) (length : Nat) (registered : record.Registered elements)
      (positive : 1 ≤ length) : (Ty.tuple (.element record) length).WellFormed elements limit
  | element (record : Element) (registered : record.Registered elements) :
      (Ty.element record).WellFormed elements limit

theorem WellFormed.mono {elements later : List Element} {limit : ℕ∞} {type : Ty}
    (valid : type.WellFormed elements limit) (grown : elements <+: later) :
    type.WellFormed later limit := by
  induction valid with
  | tensor shape regular deep ih => exact .tensor shape regular ih
  | set record endpoints registered few sets deep ih =>
      exact .set record endpoints (registered.mono grown) few sets ih
  | tuple record length registered positive =>
      exact .tuple record length (registered.mono grown) positive
  | element record registered => exact .element record (registered.mono grown)

end Ty

def Var.WellFormedSet (elements : List Element) (limit : ℕ∞) (var : Var) : Prop :=
  var.IsSet ∧ ∀ type, var.type? = some type → type.WellFormed elements limit

namespace Ty

variable {elements : List Element} {limit : ℕ∞}

theorem wellFormed_tensor {shape : TensorType Var} :
    (Ty.tensor shape).WellFormed elements limit ↔
      shape.Regular (Var.WellFormedSet elements limit) := by
  constructor
  · intro valid
    cases valid with
    | tensor _ regular deep =>
        exact ⟨regular.column, regular.nonempty, regular.uniform, fun axis member var indexed =>
          ⟨regular.sets axis member var indexed, deep axis member var indexed⟩⟩
  · intro regular
    exact .tensor shape (regular.mono fun var proper => proper.1)
      fun axis member var indexed => (regular.sets axis member var indexed).2

theorem wellFormed_ofScalar (component : Scalar) :
    (Ty.ofScalar component).WellFormed elements limit :=
  wellFormed_tensor.mpr (TensorType.scalar_regular component)

end Ty

def Outcome.WellFormed (elements : List Element) (limit : ℕ∞) (outcome : Outcome) : Prop :=
  ∀ types, outcome = some types → ∀ type ∈ types, type.WellFormed elements limit

namespace Outcome

variable {elements : List Element} {limit : ℕ∞}

theorem wellFormed_none : Outcome.WellFormed elements limit none :=
  fun _ known => (nomatch known)

theorem wellFormed_one {type : Ty} (valid : type.WellFormed elements limit) :
    (one type).WellFormed elements limit := by
  intro types known found member
  cases known
  exact List.mem_singleton.mp member ▸ valid

theorem wellFormed_ofType {type? : Option Ty}
    (valid : ∀ type, type? = some type → type.WellFormed elements limit) :
    (ofType? type?).WellFormed elements limit := by
  cases type? with
  | none => exact wellFormed_none
  | some type => exact wellFormed_one (valid type rfl)

theorem WellFormed.single {type : Ty} {outcome : Outcome}
    (valid : outcome.WellFormed elements limit) (known : outcome = some [type]) :
    type.WellFormed elements limit :=
  valid [type] known type (by simp)

end Outcome

namespace SymbolTable

variable {limit : ℕ∞}

-- The type is bound to a symbol in a live scope, or part of a routine or element that is known.
inductive Holds (table : SymbolTable) : Ty → Prop where
  | symbol (scope : Scope) (live : scope ∈ table.scopes) (symbol : Symbol)
      (member : symbol ∈ scope.symbols) (type : Ty) (typed : symbol.var.type? = some type) :
      table.Holds type
  | parameter (routine : Routine) (known : routine ∈ table.routines) (var : Var)
      (member : var ∈ routine.parameters) (type : Ty) (typed : var.type? = some type) :
      table.Holds type
  | result (routine : Routine) (known : routine ∈ table.routines) (var : Var)
      (member : var ∈ routine.results) (type : Ty) (typed : var.type? = some type) :
      table.Holds type
  | field (record : Element) (known : record ∈ table.elements) (field : Field)
      (member : field ∈ record.fields) : table.Holds field.type

def WellFormed (limit : ℕ∞) (table : SymbolTable) : Prop :=
  ∀ type, table.Holds type → type.WellFormed table.elements limit

theorem symbol?_mem {table : SymbolTable} {name : String} {symbol : Symbol}
    (found : table.symbol? name = some symbol) :
    ∃ scope ∈ table.scopes, symbol ∈ scope.symbols := by
  obtain ⟨scope, live, inScope⟩ := List.exists_of_findSome?_eq_some found
  exact ⟨scope, live, List.mem_of_find?_eq_some inScope⟩

theorem WellFormed.symbol {table : SymbolTable} (valid : table.WellFormed limit) {name : String}
    {symbol : Symbol} (found : table.symbol? name = some symbol) {type : Ty}
    (typed : symbol.var.type? = some type) : type.WellFormed table.elements limit := by
  obtain ⟨scope, live, member⟩ := symbol?_mem found
  exact valid type (.symbol scope live symbol member type typed)

theorem WellFormed.result {table : SymbolTable} (valid : table.WellFormed limit) {name : String}
    {routine : Routine} (found : table.routine? name = some routine) :
    ∀ type ∈ routine.resultTypes, type.WellFormed table.elements limit := by
  intro type member
  obtain ⟨var, varMember, typed⟩ := List.mem_filterMap.mp member
  exact valid type (.result routine (List.mem_of_find?_eq_some found) var varMember type typed)

theorem element?_registered {table : SymbolTable} {name : String} {record : Element}
    (found : table.element? name = some record) : record.Registered table.elements := by
  have named : record.name = name := by simpa using List.find?_some found
  simp only [Element.Registered]
  rw [named]
  exact found

theorem WellFormed.field {table : SymbolTable} (valid : table.WellFormed limit) {record : Element}
    (registered : record.Registered table.elements) {name : String} {field : Field}
    (found : record.field? name = some field) : field.type.WellFormed table.elements limit :=
  valid field.type (.field record (List.mem_of_find?_eq_some registered) field
    (List.mem_of_find?_eq_some found))

theorem WellFormed.of_scopes {table changed : SymbolTable} (valid : table.WellFormed limit)
    (elements : changed.elements = table.elements) (routines : changed.routines = table.routines)
    (scopes : ∀ scope ∈ changed.scopes, ∀ symbol ∈ scope.symbols, ∀ type,
      symbol.var.type? = some type → type.WellFormed table.elements limit) :
    changed.WellFormed limit := by
  intro type held
  rw [elements]
  cases held with
  | symbol scope live symbol member type typed => exact scopes scope live symbol member type typed
  | parameter routine known var member type typed =>
      exact valid type (.parameter routine (routines ▸ known) var member type typed)
  | result routine known var member type typed =>
      exact valid type (.result routine (routines ▸ known) var member type typed)
  | field record known field member =>
      exact valid field.type (.field record (elements ▸ known) field member)

theorem WellFormed.push {table : SymbolTable} (valid : table.WellFormed limit) :
    table.push.WellFormed limit := by
  refine valid.of_scopes rfl rfl fun scope live symbol member type typed => ?_
  rw [scopes_push] at live
  rcases List.mem_cons.mp live with fresh | outer
  · rw [fresh] at member
    exact (nomatch member)
  · exact valid type (.symbol scope outer symbol member type typed)

theorem WellFormed.pop {table : SymbolTable} (valid : table.WellFormed limit) :
    table.pop.WellFormed limit :=
  valid.of_scopes rfl rfl fun scope live symbol member type typed =>
    valid type (.symbol scope (table.scopes_pop_subset live) symbol member type typed)

theorem WellFormed.bind {table : SymbolTable} (valid : table.WellFormed limit) (name : String)
    {type? : Option Ty} (access : Access)
    (typed : ∀ type, type? = some type → type.WellFormed table.elements limit) :
    (table.bind name type? access).WellFormed limit := by
  obtain ⟨outer, before, after⟩ := table.scopes_bind name type? access
  apply valid.of_scopes (table.elements_bind ..) (table.routines_bind ..)
  intro scope live symbol member type known
  rw [after] at live
  rcases List.mem_cons.mp live with current | below
  · rw [current] at member
    rcases List.mem_cons.mp member with new | old
    · rw [new] at known
      exact typed type known
    · exact valid type (.symbol table.current (by simp [before]) symbol old type known)
  · exact valid type (.symbol scope (by simp [before, below]) symbol member type known)

theorem WellFormed.of_bind {table : SymbolTable} {name : String} {type? : Option Ty}
    {access : Access} (valid : (table.bind name type? access).WellFormed limit) :
    table.WellFormed limit := by
  obtain ⟨outer, before, after⟩ := table.scopes_bind name type? access
  apply valid.of_scopes (table.elements_bind ..).symm (table.routines_bind ..).symm
  intro scope live symbol member type known
  rw [before] at live
  rcases List.mem_cons.mp live with current | below
  · rw [current] at member
    have live : table.current.insert ⟨table.fresh name type?, access⟩ ∈
        (table.bind name type? access).scopes := by simp [after]
    exact valid type (.symbol _ live symbol (List.mem_cons_of_mem _ member) type known)
  · exact valid type (.symbol scope (by simp [after, below]) symbol member type known)

/-- A check against the table records well-formed types. It fails only if a set may be too large. -/
def rule (limit : ℕ∞) (table : SymbolTable) : Log.Rule where
  error := fun _ => True
  entry := fun entry => ∀ type ∈ entry.types, type.WellFormed table.elements limit
  defect := fun _ => UInt32.size < limit

end SymbolTable

end TensorLang
