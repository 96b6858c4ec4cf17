import TensorLang.Proofs.Axes

set_option autoImplicit false

namespace TensorLang

variable {σ : Type}

namespace TensorType

-- A tensor type that is laid out as blocks need it, over sets that are `allowed`.
structure Regular (allowed : σ → Prop) (tensor : TensorType σ) : Prop where
  column : tensor.column = true → tensor.order = 1
  nonempty : ∀ axis ∈ tensor.axes, axis ≠ []
  uniform : ∀ axis ∈ tensor.axes, axis.length = tensor.nesting
  sets : ∀ axis ∈ tensor.axes, ∀ set, IndexSet.set set ∈ axis → allowed set

variable {allowed : σ → Prop}

theorem Regular.mono {wider : σ → Prop} {tensor : TensorType σ} (regular : tensor.Regular allowed)
    (weaker : ∀ set, allowed set → wider set) : tensor.Regular wider :=
  ⟨regular.column, regular.nonempty, regular.uniform,
    fun axis member set indexed => weaker set (regular.sets axis member set indexed)⟩

theorem Regular.outer_length {tensor : TensorType σ} (regular : tensor.Regular allowed) :
    tensor.outer.length = tensor.order := by
  have nonempty := regular.nonempty
  simp only [outer, order]
  generalize tensor.axes = axes at nonempty
  induction axes with
  | nil => rfl
  | cons axis rest ih =>
      cases axis with
      | nil => exact absurd rfl (nonempty [] (by simp))
      | cons leading nested =>
          have tail := ih fun other member => nonempty other (by simp [member])
          exact congrArg (· + 1) tail

theorem Regular.steps_fst {tensor : TensorType σ} (regular : tensor.Regular allowed) {β : Type}
    {positions : List β} (counts : tensor.order = positions.length) :
    (positions.zip (tensor.axes.zip tensor.outer)).map Prod.fst = positions := by
  have axes : (tensor.axes.zip tensor.outer).length = tensor.order := by
    rw [List.length_zip, regular.outer_length]
    exact Nat.min_self _
  exact List.map_fst_zip (by omega)

theorem scalar_regular (component : Scalar) : (scalar component : TensorType σ).Regular allowed :=
  ⟨fun column => (nomatch column), fun _ member => (nomatch member),
    fun _ member => (nomatch member), fun _ member => (nomatch member)⟩

theorem scalar_of_axes {component : Scalar} {column : Bool}
    (regular : (⟨component, [], column⟩ : TensorType σ).Regular allowed) : column = false := by
  cases column with
  | false => rfl
  | true => exact nomatch regular.column rfl

theorem eq_scalar {tensor : TensorType σ} (regular : tensor.Regular allowed)
    (flat : tensor.isScalar = true) : tensor = scalar tensor.component := by
  obtain ⟨component, axes, column⟩ := tensor
  obtain rfl := List.isEmpty_iff.mp flat
  obtain rfl := scalar_of_axes regular
  rfl

theorem regular_of_axes (component : Scalar) (axes : List (Axis σ)) (column : Bool) (depth : Nat)
    (single : column = true → axes.length = 1) (positive : 0 < depth)
    (lengths : ∀ axis ∈ axes, axis.length = depth)
    (sets : ∀ axis ∈ axes, ∀ set, IndexSet.set set ∈ axis → allowed set) :
    (⟨component, axes, column⟩ : TensorType σ).Regular allowed := by
  refine ⟨single, ?_, ?_, sets⟩
  · intro axis member empty
    have length := lengths axis member
    rw [empty] at length
    exact absurd length (Nat.ne_of_lt positive)
  · intro axis member
    cases axes with
    | nil => exact (nomatch member)
    | cons first rest => exact (lengths axis member).trans (lengths first (by simp)).symm

theorem Regular.nesting_pos {tensor : TensorType σ} (regular : tensor.Regular allowed)
    {axis : Axis σ} (member : axis ∈ tensor.axes) : 0 < tensor.nesting := by
  rw [← regular.uniform axis member]
  exact List.length_pos_iff.mpr (regular.nonempty axis member)

theorem Regular.of_subset {tensor : TensorType σ} (regular : tensor.Regular allowed)
    (axes : List (Axis σ)) (column : Bool) (single : column = true → axes.length = 1)
    (subset : ∀ axis ∈ axes, axis ∈ tensor.axes) :
    (⟨tensor.component, axes, column⟩ : TensorType σ).Regular allowed := by
  cases axes with
  | nil =>
      cases column with
      | false => exact scalar_regular tensor.component
      | true => exact absurd (single rfl) (by simp)
  | cons first rest =>
      exact regular_of_axes tensor.component (first :: rest) column tensor.nesting single
        (regular.nesting_pos (subset first (by simp)))
        (fun axis member => regular.uniform axis (subset axis member))
        (fun axis member => regular.sets axis (subset axis member))

theorem wider_regular {left right : TensorType σ} (leftRegular : left.Regular allowed)
    (rightRegular : right.Regular allowed) : (left.wider right).Regular allowed := by
  simp only [wider]
  by_cases narrow : left.isScalar = true
  · rw [if_pos narrow]
    exact rightRegular
  · rw [if_neg narrow]
    exact leftRegular

theorem elementwise_regular [BEq σ] {left right type : TensorType σ}
    (leftRegular : left.Regular allowed) (rightRegular : right.Regular allowed)
    (typed : left.elementwise? right = some type) : type.Regular allowed := by
  simp only [elementwise?, Option.ite_none_right_eq_some, Option.some.injEq] at typed
  exact typed.2 ▸ wider_regular leftRegular rightRegular

theorem quotient_regular {left right type : TensorType σ} (leftRegular : left.Regular allowed)
    (rightRegular : right.Regular allowed) (typed : left.quotient right = .ok type) :
    type.Regular allowed := by
  simp only [quotient] at typed
  by_cases differ : left.component ≠ right.component
  · rw [if_pos differ] at typed
    cases typed
  rw [if_neg differ] at typed
  by_cases tensors : (!left.isScalar && !right.isScalar) = true
  · rw [if_pos tensors] at typed
    cases typed
  rw [if_neg tensors] at typed
  exact Except.ok.inj typed ▸ wider_regular leftRegular rightRegular

theorem transposed_regular {tensor type : TensorType σ} (regular : tensor.Regular allowed)
    (typed : tensor.transposed? = some type) : type.Regular allowed := by
  rw [transposed_by_axes] at typed
  split at typed
  · exact Option.some.inj typed ▸ regular
  · rename_i axis shape
    rw [← Option.some.inj typed]
    exact regular.of_subset tensor.axes (!tensor.column) (fun _ => by rw [shape]; rfl)
      (fun _ member => member)
  · rename_i rows columns shape
    rw [← Option.some.inj typed]
    refine regular.of_subset [columns, rows] false (fun column => (nomatch column)) ?_
    intro axis member
    rw [shape]
    simpa [or_comm] using member
  · exact (nomatch typed)

theorem pair_regular {left right : TensorType σ} (leftRegular : left.Regular allowed)
    (rightRegular : right.Regular allowed) {rows columns : Axis σ} (rowMember : rows ∈ left.axes)
    (columnMember : columns ∈ right.axes) (depths : left.nesting = right.nesting) :
    (⟨left.component, [rows, columns], false⟩ : TensorType σ).Regular allowed := by
  refine regular_of_axes left.component [rows, columns] false left.nesting
    (fun column => (nomatch column)) (leftRegular.nesting_pos rowMember) ?_ ?_
  · intro axis member
    rcases List.mem_cons.mp member with same | last
    · exact same ▸ leftRegular.uniform rows rowMember
    · rw [List.mem_singleton.mp last, depths]
      exact rightRegular.uniform columns columnMember
  · intro axis member
    rcases List.mem_cons.mp member with same | last
    · exact same ▸ leftRegular.sets rows rowMember
    · rw [List.mem_singleton.mp last]
      exact rightRegular.sets columns columnMember

theorem nesting_of_common_axis [BEq σ] {left right : TensorType σ}
    (leftRegular : left.Regular allowed) (rightRegular : right.Regular allowed)
    {leftAxis rightAxis : Axis σ} (leftMember : leftAxis ∈ left.axes)
    (rightMember : rightAxis ∈ right.axes) (same : ¬(leftAxis != rightAxis) = true) :
    left.nesting = right.nesting := by
  have lengths : leftAxis.length = rightAxis.length :=
    List.length_eq_of_beq (by simpa [bne] using same)
  rw [← leftRegular.uniform leftAxis leftMember, lengths]
  exact rightRegular.uniform rightAxis rightMember

-- The inner axes of a product are equal, so that the outer ones are nested to one depth.
theorem product_by_axes_regular [BEq σ] {left right type : TensorType σ}
    (leftRegular : left.Regular allowed) (rightRegular : right.Regular allowed)
    (typed : (left.productByAxes right).type? = some type) : type.Regular allowed := by
  simp only [productByAxes] at typed
  split at typed
  · exact Option.some.inj typed ▸ rightRegular
  · exact Option.some.inj typed ▸ leftRegular
  · rename_i leftAxis rightAxis leftShape rightShape
    have leftMember : leftAxis ∈ left.axes := by simp [leftShape]
    have rightMember : rightAxis ∈ right.axes := by simp [rightShape]
    by_cases columns : (left.column && right.column) = true
    · rw [if_pos columns] at typed
      cases typed
    by_cases rows : (!left.column && !right.column) = true
    · rw [if_neg columns, if_pos rows] at typed
      cases typed
    by_cases differ : (leftAxis != rightAxis) = true
    · rw [if_neg columns, if_neg rows, if_pos differ] at typed
      cases typed
    rw [if_neg columns, if_neg rows, if_neg differ] at typed
    by_cases upright : left.column = true
    · rw [if_pos upright] at typed
      have depths := nesting_of_common_axis leftRegular rightRegular leftMember rightMember differ
      rw [← Option.some.inj typed]
      exact pair_regular leftRegular rightRegular leftMember rightMember depths
    · rw [if_neg upright] at typed
      exact Option.some.inj typed ▸ scalar_regular left.component
  · rename_i rows inner rightAxis leftShape rightShape
    by_cases differ : (inner != rightAxis) = true
    · rw [if_pos differ] at typed
      cases typed
    · rw [if_neg differ] at typed
      rw [← Option.some.inj typed]
      exact leftRegular.of_subset [rows] true (fun _ => rfl) (by simp [leftShape])
  · rename_i leftAxis inner columns leftShape rightShape
    by_cases differ : (leftAxis != inner) = true
    · rw [if_pos differ] at typed
      cases typed
    · rw [if_neg differ] at typed
      rw [← Option.some.inj typed]
      have regular := rightRegular.of_subset [columns] false (by simp) (by simp [rightShape])
      exact ⟨regular.column, regular.nonempty, regular.uniform, regular.sets⟩
  · rename_i rows leftInner rightInner columns leftShape rightShape
    have leftMember : leftInner ∈ left.axes := by simp [leftShape]
    have rightMember : rightInner ∈ right.axes := by simp [rightShape]
    by_cases differ : (leftInner != rightInner) = true
    · rw [if_pos differ] at typed
      cases typed
    · rw [if_neg differ] at typed
      have depths := nesting_of_common_axis leftRegular rightRegular leftMember rightMember differ
      rw [← Option.some.inj typed]
      exact pair_regular leftRegular rightRegular (by simp [leftShape]) (by simp [rightShape])
        depths
  · cases typed

theorem product_regular [BEq σ] {left right type : TensorType σ}
    (leftRegular : left.Regular allowed) (rightRegular : right.Regular allowed)
    (typed : (left.productOf right).type? = some type) : type.Regular allowed := by
  by_cases components : left.component = right.component
  · rw [product_of_same components] at typed
    exact product_by_axes_regular leftRegular rightRegular typed
  · rw [product_of_different components] at typed
    cases typed

theorem ofBlocks_cases {leading : List (IndexSet σ)} {block whole : TensorType σ}
    (proper : leading ≠ []) (built : ofBlocks? leading block = some whole) :
    (block.isScalar = true ∧ whole = ⟨block.component, leading.map ([·]), false⟩) ∨
      (block.isScalar = false ∧ block.order = leading.length ∧
        whole = ⟨block.component, List.zipWith List.cons leading block.axes, false⟩) := by
  rw [ofBlocks?, if_neg (by simpa using proper)] at built
  cases flat : block.isScalar with
  | true =>
      rw [if_pos flat] at built
      exact .inl ⟨rfl, (Option.some.inj built).symm⟩
  | false =>
      rw [if_neg (by simp [flat]), Option.ite_none_right_eq_some] at built
      exact .inr ⟨rfl, built.1, (Option.some.inj built.2).symm⟩

theorem ofBlocks_regular {leading : List (IndexSet σ)} {block type : TensorType σ}
    (leadingSets : ∀ set, IndexSet.set set ∈ leading → allowed set)
    (regular : block.Regular allowed) (typed : ofBlocks? leading block = some type) :
    type.Regular allowed := by
  by_cases unindexed : leading = []
  · subst leading
    exact Option.some.inj typed ▸ regular
  rcases ofBlocks_cases unindexed typed with ⟨_, rfl⟩ | ⟨_, _, rfl⟩
  · refine regular_of_axes block.component (leading.map ([·])) false 1
      (fun column => (nomatch column)) Nat.one_pos ?_ ?_
    · intro axis member
      obtain ⟨index, _, rfl⟩ := List.mem_map.mp member
      rfl
    · intro axis member set indexed
      obtain ⟨index, indexMember, rfl⟩ := List.mem_map.mp member
      exact leadingSets set (List.mem_singleton.mp indexed ▸ indexMember)
  · refine regular_of_axes block.component (List.zipWith List.cons leading block.axes) false
      (block.nesting + 1) (fun column => (nomatch column)) (Nat.succ_pos _) ?_ ?_
    · intro axis member
      rw [← List.map_uncurry_zip_eq_zipWith] at member
      obtain ⟨⟨index, nested⟩, pairMember, rfl⟩ := List.mem_map.mp member
      exact congrArg (· + 1) (regular.uniform nested (List.of_mem_zip pairMember).2)
    · intro axis member set indexed
      rw [← List.map_uncurry_zip_eq_zipWith] at member
      obtain ⟨⟨index, nested⟩, pairMember, rfl⟩ := List.mem_map.mp member
      obtain ⟨indexMember, nestedMember⟩ := List.of_mem_zip pairMember
      rcases List.mem_cons.mp indexed with same | inner
      · exact leadingSets set (same ▸ indexMember)
      · exact regular.sets nested nestedMember set inner

theorem block_regular {tensor : TensorType σ} (regular : tensor.Regular allowed) :
    tensor.block.Regular allowed := by
  simp only [block]
  by_cases flat : tensor.nesting ≤ 1
  · rw [if_pos flat]
    exact scalar_regular tensor.component
  · rw [if_neg flat]
    have deep : 0 < tensor.nesting - 1 := by omega
    refine regular_of_axes tensor.component (tensor.axes.map List.tail) tensor.column
      (tensor.nesting - 1) ?_ deep ?_ ?_
    · intro column
      rw [List.length_map]
      exact regular.column column
    · intro axis member
      obtain ⟨whole, wholeMember, rfl⟩ := List.mem_map.mp member
      rw [List.length_tail, regular.uniform whole wholeMember]
    · intro axis member set indexed
      obtain ⟨whole, wholeMember, rfl⟩ := List.mem_map.mp member
      exact regular.sets whole wholeMember set (List.mem_of_mem_tail indexed)

theorem readKeeping_regular {tensor : TensorType σ} (regular : tensor.Regular allowed)
    (kept : List (Axis σ)) (lastIsIndex : Bool) (subset : ∀ axis ∈ kept, axis ∈ tensor.axes) :
    (tensor.readKeeping kept lastIsIndex).Regular allowed := by
  simp only [readKeeping]
  by_cases whole : kept.isEmpty = true
  · rw [if_pos whole]
    exact block_regular regular
  · rw [if_neg whole]
    refine regular.of_subset kept _ (fun column => ?_) subset
    rw [Bool.and_eq_true] at column
    exact eq_of_beq column.1

theorem overSet_regular {tensor : TensorType σ} {leading : IndexSet σ}
    (leadingSet : ∀ set, leading = .set set → allowed set) (regular : tensor.Regular allowed) :
    (tensor.overSet leading).Regular allowed := by
  refine regular_of_axes tensor.component [leading :: tensor.axes.headD []] tensor.column
    (tensor.axes.headD []).length.succ (fun _ => rfl) (Nat.succ_pos _) ?_ ?_
  · intro axis member
    rw [List.mem_singleton.mp member]
    rfl
  · intro axis member set indexed
    rw [List.mem_singleton.mp member] at indexed
    rcases List.mem_cons.mp indexed with same | inner
    · exact leadingSet set same.symm
    · cases shape : tensor.axes with
      | nil => simp [shape] at inner
      | cons first rest =>
          apply regular.sets first (by simp [shape]) set
          simpa [shape] using inner

end TensorType

end TensorLang
