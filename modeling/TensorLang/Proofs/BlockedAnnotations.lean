import TensorLang.Proofs.Blocks
import TensorLang.Proofs.Reads
import TensorLang.Proofs.SoundAnnotations

set_option autoImplicit false

namespace TensorLang

theorem oriented_resolves {span : Span} {column : Bool} {tensor : TensorType Var} {type : Ty}
    (resolved : (tensor.oriented span column).value = some type) :
    (column = true → tensor.order = 1) ∧
      type = .tensor { tensor with column := tensor.column || column } := by
  unfold TensorType.oriented at resolved
  cases column with
  | false =>
      rw [Bool.or_false]
      exact ⟨fun turned => (nomatch turned), (Option.some.inj resolved).symm⟩
  | true =>
      rw [Bool.or_true]
      by_cases single : tensor.order = 1
      · rw [if_neg (by decide), if_pos single] at resolved
        exact ⟨fun _ => single, (Option.some.inj resolved).symm⟩
      · rw [if_neg (by decide), if_neg single] at resolved
        exact nomatch resolved

theorem tensor_of_resolves {span blockSpan : Span} {column : Bool} {leading : List (IndexSet Var)}
    {found type : Ty}
    (resolved : (found.tensorOf span blockSpan column leading).value = some type) :
    ∃ block whole, found = .tensor block ∧ TensorType.ofBlocks? leading block = some whole ∧
      (column = true → whole.order = 1) ∧
      type = .tensor { whole with column := whole.column || column } := by
  cases found with
  | tensor block =>
      unfold Ty.tensorOf at resolved
      dsimp only at resolved
      cases built : TensorType.ofBlocks? leading block with
      | none =>
          rw [built] at resolved
          exact nomatch resolved
      | some whole =>
          rw [built] at resolved
          exact ⟨block, whole, rfl, built, oriented_resolves resolved⟩
  | set | tuple | element => exact nomatch resolved

variable {table : SymbolTable}

theorem tensor_resolves {node : Node} {domains : List (Domain Node)} {inner : TypeExpr Node}
    {column : Bool} {type : Ty}
    (resolved : ((TypeExpr.tensor node domains inner column).resolve table).value = some type) :
    ∃ leading block whole,
      (domains.map fun domain => (domain.resolve table).value) = leading.map some ∧
      (inner.resolve table).value = some (.tensor block) ∧
      TensorType.ofBlocks? leading block = some whole ∧ (column = true → whole.order = 1) ∧
      type = .tensor { whole with column := whole.column || column } := by
  rw [TypeExpr.resolve, Logged.value_bind, Logged.value_bind, Logged.value_mapM] at resolved
  cases found : (inner.resolve table).value with
  | none =>
      rw [found] at resolved
      exact nomatch resolved
  | some block =>
      cases present : allPresent (domains.map fun domain => (domain.resolve table).value) with
      | none =>
          rw [found, present] at resolved
          exact nomatch resolved
      | some leading =>
          rw [found, present] at resolved
          obtain ⟨block, whole, rfl, built, single, rfl⟩ := tensor_of_resolves resolved
          exact ⟨leading, block, whole, allPresent_eq_some present, rfl, built, single, rfl⟩

theorem resolved_tensor_regular {written : TypeExpr Node} {shape : TensorType Var}
    (resolved : (written.resolve table).value = some (.tensor shape)) :
    shape.Regular fun _ => True := by
  induction written generalizing shape with
  | scalar node component =>
      cases resolved
      exact TensorType.scalar_regular component
  | element name =>
      rw [TypeExpr.resolve, name.resolve_element_promised] at resolved
      cases found : table.element? name.text <;> rw [found] at resolved <;> exact nomatch resolved
  | set node member endpoints =>
      rw [TypeExpr.resolve, Logged.value_bind, Logged.value_bind] at resolved
      split at resolved <;> exact nomatch resolved
  | tuple node member lengthNode length =>
      rw [TypeExpr.resolve, Logged.value_bind] at resolved
      split at resolved
      · obtain ⟨_, _, same⟩ := Option.map_eq_some_iff.mp resolved
        exact nomatch same
      · exact nomatch resolved
  | tensor node domains inner column ih =>
      obtain ⟨leading, block, whole, _, found, built, single, same⟩ := tensor_resolves resolved
      obtain rfl := Ty.tensor.inj same
      have regular := TensorType.ofBlocks_regular (fun _ _ => trivial) (ih found) built
      refine regular.of_subset whole.axes _ (fun turned => ?_) fun _ member => member
      rcases Bool.or_eq_true_iff.mp turned with already | turned
      · exact regular.column already
      · exact single turned

-- A vector of vectors has one orientation for both: that of the annotation around them.
theorem block_kept_iff {block : TensorType Var} {column : Bool} :
    (if block.isScalar then block else { block with column } : TensorType Var) = block ↔
      block.isScalar = true ∨ block.column = column := by
  obtain ⟨component, axes, oriented⟩ := block
  cases flat : (⟨component, axes, oriented⟩ : TensorType Var).isScalar with
  | true => simp
  | false => simp [eq_comm]

-- Only a vector can be a column, and only a vector has vectors as its blocks.
theorem blocks_oriented_alike {leading : List (IndexSet Var)} {block whole : TensorType Var}
    {allowed : Var → Prop} {column : Bool} (regular : block.Regular allowed)
    (proper : leading ≠ []) (built : TensorType.ofBlocks? leading block = some whole)
    (single : column = true → whole.order = 1) (several : 2 ≤ leading.length) :
    block.isScalar = true ∨ block.column = column := by
  have order := TensorType.order_ofBlocks proper built
  have row : column = false := by
    rw [← Bool.not_eq_true]
    intro turned
    have vector := single turned
    omega
  rcases TensorType.ofBlocks_cases proper built with ⟨flat, _⟩ | ⟨_, lengths, _⟩
  · exact .inl flat
  · right
    rw [row, ← Bool.not_eq_true]
    intro turned
    have vector := regular.column turned
    omega

/--
A tensor annotation that writes index sets around an annotation for its blocks stands for a type
whose outer index sets are those written and whose block is the one written, as long as it is a
scalar or has the orientation of the whole; a block with the other orientation is turned, which only
happens to vectors. Reading a variable of that type at an integer for every index set gives its
block.
-/
theorem blocked_annotation_parts {table : SymbolTable} {node : Node} {domains : List (Domain Node)}
    {inner : TypeExpr Node} {column : Bool} {type : Ty} (blocked : domains ≠ [])
    (resolved : ((TypeExpr.tensor node domains inner column).resolve table).value = some type) :
    ∃ block whole : TensorType Var,
      type = .tensor whole ∧ (inner.resolve table).value = some (.tensor block) ∧
      (domains.map fun domain => (domain.resolve table).value) = whole.outer.map some ∧
      whole.component = block.component ∧ whole.column = column ∧
      whole.block = (if block.isScalar then block else { block with column }) ∧
      (whole.block = block ↔ block.isScalar = true ∨ block.column = column) ∧
      (2 ≤ domains.length → whole.block = block) ∧
      ∀ (scope : SymbolTable) (place : Node) (name : Name Node) (symbol : Symbol)
          (indices : List (Expr Node)),
        scope.symbol? name.text = some symbol → symbol.var.type? = some type →
        indices.length = domains.length →
        (∀ index ∈ indices, ∃ found,
          (index.infer scope .read).value = .one found ∧ found.isInt = true) →
        let read := (Expr.read place (.ident name) (indices.map .at)).infer scope .read
        read.value = .tensor whole.block ∧
          read.log.errors = indices.flatMap fun index => (index.infer scope .read).log.errors := by
  obtain ⟨leading, block, flat, domainsKnown, found, built, single, rfl⟩ := tensor_resolves resolved
  have lengths : leading.length = domains.length := by
    rw [← List.length_map some, ← domainsKnown, List.length_map]
  have proper : leading ≠ [] := by
    rw [← List.length_pos_iff, lengths]
    exact List.length_pos_iff.mpr blocked
  have upright := TensorType.column_ofBlocks proper built
  have outer := TensorType.outer_ofBlocks proper built
  rw [upright, Bool.false_or]
  have parts := TensorType.block_ofBlocks (resolved_tensor_regular found) proper built column
  have component := TensorType.component_ofBlocks proper built
  refine ⟨block, { flat with column }, rfl, found, ?_, component, rfl, parts, ?_, ?_, ?_⟩
  · rw [domainsKnown]
    exact congrArg (List.map some) outer.symm
  · rw [parts]
    exact block_kept_iff
  · intro several
    rw [parts, block_kept_iff]
    exact blocks_oriented_alike (resolved_tensor_regular found) proper built single (lengths ▸ several)
  · intro scope place name symbol indices bound typed counts integers
    rw [upright, Bool.false_or] at resolved
    have regular := resolved_tensor_regular resolved
    obtain ⟨known, silent⟩ := infer_bound bound typed
    have orders := (TensorType.order_ofBlocks proper built).trans (lengths.trans counts.symm)
    obtain ⟨value, errors⟩ := infer_read_block .read regular known orders integers
    exact ⟨value, errors.trans (by rw [Mode.ofBase, silent]; rfl)⟩

theorem column_of_columns_parts :
    let node : Node := ⟨0, .origin⟩
    let inner : TypeExpr Node := .tensor node [.range node 3] (.scalar node .float) true
    let type : Ty := .tensor ⟨.float, [[.dynamic, .range 3]], true⟩
    let column : TensorType Var := ⟨.float, [[.range 3]], true⟩
    let scope := SymbolTable.empty.bind "v" (some type) .read
    let read : Expr Node := .read node (.ident ⟨node, "v"⟩) [.at (.int node 0)]
    ((TypeExpr.tensor node [.dynamic node] inner true).resolve .empty).value = some type ∧
      (inner.resolve .empty).value = some (.tensor column) ∧
      (read.infer scope .read).value = .tensor column ∧
      (read.infer scope .read).log.errors = [] := by
  intro node inner type column scope read
  have resolved : ((TypeExpr.tensor node [.dynamic node] inner true).resolve .empty).value =
      some type := rfl
  obtain ⟨block, whole, same, found, _, _, _, _, kept, _, reads⟩ :=
    blocked_annotation_parts (List.cons_ne_nil _ _) resolved
  have known : some (.tensor column) = some (Ty.tensor block) := found
  cases known
  have oriented : whole.block = column := kept.mpr (.inr rfl)
  obtain ⟨value, errors⟩ := reads scope node ⟨node, "v"⟩ _ [.int node 0] rfl rfl rfl
    fun index member => ⟨.int, by rw [List.mem_singleton.mp member]; exact ⟨rfl, rfl⟩⟩
  rw [oriented] at value
  exact ⟨resolved, found, value, errors⟩

-- The row that is written around a column makes a row of it.
theorem column_in_row_turned :
    let node : Node := ⟨0, .origin⟩
    let inner : TypeExpr Node := .tensor node [.range node 3] (.scalar node .float) true
    let column : TensorType Var := ⟨.float, [[.range 3]], true⟩
    let row : TensorType Var := ⟨.float, [[.range 3]], false⟩
    let whole : TensorType Var := ⟨.float, [[.range 4, .range 3]], false⟩
    let scope := SymbolTable.empty.bind "v" (some (.tensor whole)) .read
    let read : Expr Node := .read node (.ident ⟨node, "v"⟩) [.at (.int node 0)]
    ((TypeExpr.tensor node [.range node 4] inner false).resolve .empty).value =
        some (.tensor whole) ∧
      (inner.resolve .empty).value = some (.tensor column) ∧ whole.block = row ∧
      whole.block ≠ column ∧ (read.infer scope .read).value = .tensor row := by
  intro node inner column row whole scope read
  refine ⟨rfl, rfl, rfl, ?_, rfl⟩
  intro same
  exact nomatch congrArg TensorType.column same

end TensorLang
