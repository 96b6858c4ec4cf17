import TensorLang.Proofs.Promises
import TensorLang.Proofs.WellFormed
import TensorLang.Tree.Annotations

set_option autoImplicit false

namespace TensorLang

theorem allPresent_eq_some {α : Type} {values : List (Option α)} {found : List α}
    (present : allPresent values = some found) : values = found.map some := by
  simp only [allPresent] at present
  induction values generalizing found with
  | nil => cases present; rfl
  | cons value? rest ih =>
      rw [List.mapM_cons] at present
      obtain ⟨value, known, present⟩ := Option.bind_eq_some_iff.mp present
      obtain ⟨values, all, same⟩ := Option.bind_eq_some_iff.mp present
      cases same
      rw [List.map_cons, ← ih all]
      exact congrArg (· :: rest) known

theorem allPresent_some {α : Type} (values : List α) :
    allPresent (values.map some) = some values := by
  simp only [allPresent]
  induction values with
  | nil => rfl
  | cons value rest ih =>
      rw [List.map_cons, List.mapM_cons, ih]
      rfl

def IfKnown {α : Type} (good : α → Prop) (value? : Option α) : Prop :=
  ∀ value, value? = some value → good value

theorem ifKnown_none {α : Type} {good : α → Prop} : IfKnown good none :=
  fun _ known => (nomatch known)

theorem ifKnown_some {α : Type} {good : α → Prop} {value : α} (known : good value) :
    IfKnown good (some value) := by
  intro other same
  cases same
  exact known

theorem ifKnown_allPresent {α : Type} {good : α → Prop} {values : List (Option α)}
    (each : ∀ value? ∈ values, IfKnown good value?) {found : List α}
    (present : allPresent values = some found) : ∀ value ∈ found, good value := by
  intro value member
  exact each (some value) (by simp [allPresent_eq_some present, member]) value rfl

variable {table : SymbolTable} {limit : ℕ∞}

theorem resolve_element_yields (name : Name Node) :
    (name.resolveElement table).Yields (table.rule limit)
      (IfKnown fun type => ∃ record : Element,
        type = .element record ∧ record.Registered table.elements) := by
  rw [name.resolve_element_promised]
  cases found : table.element? name.text with
  | none => exact Logged.yields_fail trivial ifKnown_none
  | some record =>
      exact Logged.yields_pure
        (ifKnown_some ⟨record, rfl, SymbolTable.element?_registered found⟩)

theorem resolve_set_yields (valid : table.WellFormed limit) (wrong : Ty → Mismatch)
    (name : Name Node) :
    (name.resolveSet table wrong).Yields (table.rule limit)
      (IfKnown (Var.WellFormedSet table.elements limit)) := by
  rw [name.resolve_set_promised]
  cases found : table.symbol? name.text with
  | none => exact Logged.yields_fail trivial ifKnown_none
  | some symbol =>
      dsimp only
      cases typed : symbol.var.type? with
      | none => exact Logged.yields_pure ifKnown_none
      | some type =>
          cases type with
          | set member endpoints =>
              exact Logged.yields_pure
                (ifKnown_some ⟨⟨member, endpoints, typed⟩, fun _ => valid.symbol found⟩)
          | tensor shape => exact Logged.yields_fail trivial ifKnown_none
          | tuple member length => exact Logged.yields_fail trivial ifKnown_none
          | element record => exact Logged.yields_fail trivial ifKnown_none

theorem domain_resolve_yields (valid : table.WellFormed limit) (domain : Domain Node) :
    (domain.resolve table).Yields (table.rule limit)
      (IfKnown fun index => ∀ var, index = .set var →
        var.WellFormedSet table.elements limit) := by
  cases domain with
  | range node size => exact Logged.yields_pure (ifKnown_some fun var same => (nomatch same))
  | dynamic node => exact Logged.yields_pure (ifKnown_some fun var same => (nomatch same))
  | set name =>
      refine Logged.yields_bind (resolve_set_yields valid _ name) fun var? known => ?_
      apply Logged.yields_pure
      cases var? with
      | none => exact ifKnown_none
      | some var =>
          refine ifKnown_some fun other same => ?_
          exact IndexSet.set.inj same ▸ known var rfl

theorem oriented_yields (span : Span) (column : Bool) {tensor : TensorType Var}
    (regular : tensor.Regular (Var.WellFormedSet table.elements limit)) :
    (tensor.oriented span column).Yields (table.rule limit)
      (IfKnown (·.WellFormed table.elements limit)) := by
  simp only [TensorType.oriented]
  by_cases row : (!column) = true
  · rw [if_pos row]
    exact Logged.yields_pure (ifKnown_some (Ty.wellFormed_tensor.mpr regular))
  rw [if_neg row]
  by_cases vector : tensor.order = 1
  · rw [if_pos vector]
    exact Logged.yields_pure (ifKnown_some (Ty.wellFormed_tensor.mpr
      (regular.of_subset tensor.axes true (fun _ => vector) fun _ member => member)))
  · rw [if_neg vector]
    exact Logged.yields_fail trivial ifKnown_none

theorem tensor_of_yields (span blockSpan : Span) (column : Bool) {leading : List (IndexSet Var)}
    {block : Ty} (sets : ∀ index ∈ leading, ∀ var, index = .set var →
      var.WellFormedSet table.elements limit)
    (valid : block.WellFormed table.elements limit) :
    (block.tensorOf span blockSpan column leading).Yields (table.rule limit)
      (IfKnown (·.WellFormed table.elements limit)) := by
  cases block with
  | tensor shape =>
      simp only [Ty.tensorOf]
      cases blocks : TensorType.ofBlocks? leading shape with
      | none => exact Logged.yields_fail trivial ifKnown_none
      | some whole =>
          refine oriented_yields span column
            (TensorType.ofBlocks_regular ?_ (Ty.wellFormed_tensor.mp valid) blocks)
          exact fun var member => sets (.set var) member var rfl
  | set member endpoints => exact Logged.yields_fail trivial ifKnown_none
  | tuple member length => exact Logged.yields_fail trivial ifKnown_none
  | element record => exact Logged.yields_fail trivial ifKnown_none

theorem tuple_length_pos {written : Int} {length : Nat}
    (read : tupleLength? written = some length) :
    1 ≤ length := by
  simp only [tupleLength?] at read
  by_cases bounds : 1 ≤ written ∧ written < UInt32.size
  · rw [if_pos bounds] at read
    rw [← Option.some.inj read]
    omega
  · rw [if_neg bounds] at read
    cases read

theorem type_expr_resolve_yields (valid : table.WellFormed limit) (written : TypeExpr Node)
    (few : written.endpoints.length < limit) :
    (written.resolve table).Yields (table.rule limit)
      (IfKnown (·.WellFormed table.elements limit)) := by
  induction written with
  | scalar node component =>
      exact Logged.yields_pure (ifKnown_some (Ty.wellFormed_ofScalar component))
  | element name =>
      refine (resolve_element_yields name).weaken fun type? known type same => ?_
      obtain ⟨record, rfl, registered⟩ := known type same
      exact .element record registered
  | set node member endpoints =>
      refine Logged.yields_bind (resolve_element_yields member) fun member? memberKnown => ?_
      have ends := Logged.yields_mapM fun name (_ : name ∈ endpoints) =>
        resolve_set_yields valid .endpoint name
      refine Logged.yields_bind_value ends ?_
      cases member? with
      | none => exact Logged.yields_pure ifKnown_none
      | some element =>
          cases present : allPresent (endpoints.mapM (Name.resolveEndpoint table)).value with
          | none => exact Logged.yields_pure ifKnown_none
          | some vars =>
              obtain ⟨record, rfl, registered⟩ := memberKnown element rfl
              have proper := ifKnown_allPresent ends.value present
              have lengths := congrArg List.length (allPresent_eq_some present)
              rw [Logged.value_mapM, List.length_map, List.length_map] at lengths
              refine Logged.yields_pure (ifKnown_some (.set record vars registered ?_ ?_ ?_))
              · exact lengths ▸ few
              · exact fun var member => (proper var member).1
              · exact fun var member => (proper var member).2
  | tuple node member lengthNode length =>
      refine Logged.yields_bind (resolve_element_yields member) fun member? memberKnown => ?_
      cases read : tupleLength? length with
      | none => exact Logged.yields_fail trivial ifKnown_none
      | some count =>
          refine Logged.yields_pure fun type same => ?_
          obtain ⟨element, found, rfl⟩ := Option.map_eq_some_iff.mp same
          obtain ⟨record, rfl, registered⟩ := memberKnown element found
          exact .tuple record count registered (tuple_length_pos read)
  | tensor node domains inner column ih =>
      refine Logged.yields_bind (ih few) fun block? blockKnown => ?_
      have indexed := Logged.yields_mapM fun domain (_ : domain ∈ domains) =>
        domain_resolve_yields valid domain
      refine Logged.yields_bind indexed fun indices known => ?_
      cases block? with
      | none => exact Logged.yields_pure ifKnown_none
      | some block =>
          cases present : allPresent indices with
          | none => exact Logged.yields_pure ifKnown_none
          | some leading =>
              exact tensor_of_yields node.span inner.node.span column
                (ifKnown_allPresent known present) (blockKnown block rfl)

end TensorLang
