import TensorLang.Proofs.Bindings
import TensorLang.Proofs.SoundAnnotations

set_option autoImplicit false

namespace TensorLang

def SymbolTable.Settled (table : SymbolTable) : Prop :=
  ∀ scope ∈ table.scopes, ∀ symbol ∈ scope.symbols, symbol.var.type?.isSome = true

namespace SymbolTable

theorem empty_settled : empty.Settled := by
  intro scope live symbol member
  rw [List.mem_singleton.mp live] at member
  exact (nomatch member)

namespace Settled

variable {table : SymbolTable}

theorem typed (settled : table.Settled) {name : String} {symbol : Symbol}
    (found : table.symbol? name = some symbol) : ∃ type, symbol.var.type? = some type := by
  obtain ⟨scope, live, member⟩ := symbol?_mem found
  exact Option.isSome_iff_exists.mp (settled scope live symbol member)

theorem push (settled : table.Settled) : table.push.Settled := by
  intro scope live symbol member
  rw [scopes_push] at live
  rcases List.mem_cons.mp live with fresh | outer
  · rw [fresh] at member
    exact (nomatch member)
  · exact settled scope outer symbol member

theorem pop (settled : table.Settled) : table.pop.Settled :=
  fun scope live => settled scope (table.scopes_pop_subset live)

theorem bind (settled : table.Settled) (name : String) {type? : Option Ty} (access : Access)
    (typed : type?.isSome = true) : (table.bind name type? access).Settled := by
  obtain ⟨outer, before, after⟩ := table.scopes_bind name type? access
  intro scope live symbol member
  rw [after] at live
  rcases List.mem_cons.mp live with current | below
  · rw [current] at member
    rcases List.mem_cons.mp member with new | old
    · rw [new]
      exact typed
    · exact settled table.current (by simp [before]) symbol old
  · exact settled scope (by simp [before, below]) symbol member

end Settled

end SymbolTable

theorem allPresent_isSome {α : Type} {values : List (Option α)}
    (each : ∀ value? ∈ values, value?.isSome = true) : (allPresent values).isSome = true := by
  simp only [allPresent]
  induction values with
  | nil => rfl
  | cons value? rest ih =>
      obtain ⟨value, known⟩ := Option.isSome_iff_exists.mp (each value? (by simp))
      have later := ih fun other member => each other (by simp [member])
      obtain ⟨values, all⟩ := Option.isSome_iff_exists.mp later
      rw [List.mapM_cons, all, known]
      rfl

namespace Logged

variable {α β : Type}

theorem bind_clean {first : Logged α} {next : α → Logged β} :
    (first >>= next).log.errors = [] ↔
      first.log.errors = [] ∧ (next first.value).log.errors = [] := by
  rw [log_bind, Log.errors_append, List.append_eq_nil_iff]

-- A check that is silent about its failure is at fault itself.
def Gives (check : Logged (Option α)) : Prop :=
  check.log.errors = [] → check.value.isSome = true

theorem gives_pure (value : α) : (Pure.pure (some value) : Logged (Option α)).Gives :=
  fun _ => rfl

theorem gives_fail (span : Span) (fault : Fault) : (fail span fault : Logged (Option α)).Gives :=
  fun clean => nomatch clean

theorem gives_bind {first : Logged α} {next : α → Logged (Option β)}
    (rest : first.log.errors = [] → (next first.value).Gives) : (first >>= next).Gives := by
  intro clean
  obtain ⟨before, after⟩ := bind_clean.mp clean
  exact rest before after

theorem gives_bind_some {first : Logged (Option α)} {next : Option α → Logged (Option β)}
    (start : first.Gives) (rest : ∀ value, first.value = some value → (next (some value)).Gives) :
    (first >>= next).Gives := by
  refine gives_bind fun clean => ?_
  obtain ⟨value, known⟩ := Option.isSome_iff_exists.mp (start clean)
  rw [known]
  exact rest value known

theorem mapM_gives {items : List β} {body : β → Logged (Option α)}
    (each : ∀ item ∈ items, (body item).Gives) (clean : (items.mapM body).log.errors = []) :
    (allPresent (items.mapM body).value).isSome = true := by
  rw [errors_mapM, List.flatMap_eq_nil_iff] at clean
  rw [value_mapM]
  refine allPresent_isSome fun value? member => ?_
  obtain ⟨item, itemMember, rfl⟩ := List.mem_map.mp member
  exact each item itemMember (clean item itemMember)

end Logged

variable {table : SymbolTable}

theorem resolve_element_gives (name : Name Node) : (name.resolveElement table).Gives := by
  rw [name.resolve_element_promised]
  cases table.element? name.text with
  | none => exact Logged.gives_fail _ _
  | some record => exact Logged.gives_pure _

theorem resolve_set_gives (settled : table.Settled) (wrong : Ty → Mismatch) (name : Name Node) :
    (name.resolveSet table wrong).Gives := by
  rw [name.resolve_set_promised]
  cases found : table.symbol? name.text with
  | none => exact Logged.gives_fail _ _
  | some symbol =>
      obtain ⟨type, typed⟩ := settled.typed found
      dsimp only
      rw [typed]
      cases type with
      | set member endpoints => exact Logged.gives_pure _
      | tensor shape => exact Logged.gives_fail _ _
      | tuple member length => exact Logged.gives_fail _ _
      | element record => exact Logged.gives_fail _ _

theorem domain_gives (settled : table.Settled) (domain : Domain Node) :
    (domain.resolve table).Gives := by
  cases domain with
  | range node size => exact Logged.gives_pure _
  | dynamic node => exact Logged.gives_pure _
  | set name =>
      refine Logged.gives_bind_some (resolve_set_gives settled _ name) fun var _ => ?_
      exact Logged.gives_pure _

theorem oriented_gives (span : Span) (column : Bool) (tensor : TensorType Var) :
    (tensor.oriented span column).Gives := by
  simp only [TensorType.oriented]
  by_cases row : (!column) = true
  · rw [if_pos row]
    exact Logged.gives_pure _
  rw [if_neg row]
  by_cases vector : tensor.order = 1
  · rw [if_pos vector]
    exact Logged.gives_pure _
  · rw [if_neg vector]
    exact Logged.gives_fail _ _

theorem tensor_of_gives (span blockSpan : Span) (column : Bool) (leading : List (IndexSet Var))
    (block : Ty) : (block.tensorOf span blockSpan column leading).Gives := by
  cases block with
  | tensor shape =>
      unfold Ty.tensorOf
      dsimp only
      cases TensorType.ofBlocks? leading shape with
      | none => exact Logged.gives_fail _ _
      | some whole => exact oriented_gives span column whole
  | set member endpoints => exact Logged.gives_fail _ _
  | tuple member length => exact Logged.gives_fail _ _
  | element record => exact Logged.gives_fail _ _

theorem annotation_gives (settled : table.Settled) (written : TypeExpr Node) :
    (written.resolve table).Gives := by
  induction written with
  | scalar node component => exact Logged.gives_pure _
  | element name => exact resolve_element_gives name
  | set node member endpoints =>
      refine Logged.gives_bind_some (resolve_element_gives member) fun found _ => ?_
      refine Logged.gives_bind fun clean => ?_
      have each (name : Name Node) (_ : name ∈ endpoints) : (name.resolveEndpoint table).Gives :=
        resolve_set_gives settled _ name
      obtain ⟨vars, known⟩ := Option.isSome_iff_exists.mp (Logged.mapM_gives each clean)
      rw [known]
      exact Logged.gives_pure _
  | tuple node member lengthNode length =>
      refine Logged.gives_bind_some (resolve_element_gives member) fun found _ => ?_
      cases tupleLength? length with
      | none => exact Logged.gives_fail _ _
      | some length => exact Logged.gives_pure _
  | tensor node domains inner column ih =>
      refine Logged.gives_bind_some ih fun block _ => ?_
      refine Logged.gives_bind fun clean => ?_
      have each (domain : Domain Node) (_ : domain ∈ domains) : (domain.resolve table).Gives :=
        domain_gives settled domain
      obtain ⟨leading, known⟩ := Option.isSome_iff_exists.mp (Logged.mapM_gives each clean)
      rw [known]
      exact tensor_of_gives _ _ _ _ _

end TensorLang
