import TensorLang.Proofs.Regular
import TensorLang.Proofs.Sameness

set_option autoImplicit false

namespace TensorLang

theorem heads_of_zip {α : Type} {heads : List α} {tails : List (List α)}
    (lengths : tails.length = heads.length) :
    (List.zipWith List.cons heads tails).filterMap List.head? = heads := by
  rw [← List.map_uncurry_zip_eq_zipWith, List.filterMap_map]
  change (heads.zip tails).filterMap (some ∘ Prod.fst) = heads
  rw [List.filterMap_eq_map]
  exact List.map_fst_zip (Nat.le_of_eq lengths.symm)

theorem tails_of_zip {α : Type} {heads : List α} {tails : List (List α)}
    (lengths : tails.length = heads.length) :
    (List.zipWith List.cons heads tails).map List.tail = tails := by
  rw [← List.map_uncurry_zip_eq_zipWith, List.map_map]
  change (heads.zip tails).map Prod.snd = tails
  exact List.map_snd_zip (Nat.le_of_eq lengths)

namespace TensorType

variable {σ : Type} {allowed : σ → Prop} {leading : List (IndexSet σ)} {block whole : TensorType σ}

theorem block_of_nested {tensor : TensorType σ} (nested : 1 < tensor.nesting) :
    tensor.block = ⟨tensor.component, tensor.axes.map List.tail, tensor.column⟩ :=
  if_neg (Nat.not_le.mpr nested)

theorem component_ofBlocks (proper : leading ≠ []) (built : ofBlocks? leading block = some whole) :
    whole.component = block.component := by
  rcases ofBlocks_cases proper built with ⟨_, rfl⟩ | ⟨_, _, rfl⟩ <;> rfl

theorem column_ofBlocks (proper : leading ≠ []) (built : ofBlocks? leading block = some whole) :
    whole.column = false := by
  rcases ofBlocks_cases proper built with ⟨_, rfl⟩ | ⟨_, _, rfl⟩ <;> rfl

theorem order_ofBlocks (proper : leading ≠ []) (built : ofBlocks? leading block = some whole) :
    whole.order = leading.length := by
  rcases ofBlocks_cases proper built with ⟨_, rfl⟩ | ⟨_, lengths, rfl⟩
  · exact List.length_map ..
  · exact List.length_zipWith.trans (Nat.min_eq_left (Nat.le_of_eq lengths.symm))

theorem outer_ofBlocks (proper : leading ≠ []) (built : ofBlocks? leading block = some whole) :
    whole.outer = leading := by
  rcases ofBlocks_cases proper built with ⟨_, rfl⟩ | ⟨_, lengths, rfl⟩
  · rw [outer, List.filterMap_map]
    exact List.filterMap_some
  · exact heads_of_zip lengths

theorem block_ofBlocks (regular : block.Regular allowed) (proper : leading ≠ [])
    (built : ofBlocks? leading block = some whole) (column : Bool) :
    ({ whole with column } : TensorType σ).block =
      if block.isScalar then block else { block with column } := by
  obtain ⟨first, rest, rfl⟩ := List.exists_cons_of_ne_nil proper
  rcases ofBlocks_cases proper built with ⟨flat, rfl⟩ | ⟨deep, lengths, rfl⟩
  · rw [if_pos flat]
    exact (eq_scalar regular flat).symm
  · rw [deep, if_neg Bool.false_ne_true]
    obtain ⟨component, axes, _⟩ := block
    cases axes with
    | nil => exact nomatch deep
    | cons axis others =>
        have filled : 0 < axis.length := List.length_pos_iff.mpr (regular.nonempty axis (by simp))
        refine (block_of_nested ?_).trans ?_
        · exact Nat.succ_lt_succ filled
        · rw [tails_of_zip lengths]

end TensorType

theorem axes_same {α : Type} [BEq α] {left right : List (List α)}
    (leftFull : ∀ axis ∈ left, axis ≠ []) (rightFull : ∀ axis ∈ right, axis ≠ [])
    (heads : (left.filterMap List.head? == right.filterMap List.head?) = true)
    (tails : (left.map List.tail == right.map List.tail) = true) : (left == right) = true := by
  induction left generalizing right with
  | nil =>
      cases right with
      | nil => rfl
      | cons other others => cases tails
  | cons axis rest ih =>
      cases right with
      | nil => cases tails
      | cons other others =>
          obtain ⟨axisFull, restFull⟩ := List.forall_mem_cons.mp leftFull
          obtain ⟨otherFull, othersFull⟩ := List.forall_mem_cons.mp rightFull
          obtain ⟨first, inner, rfl⟩ := List.exists_cons_of_ne_nil axisFull
          obtain ⟨second, outer, rfl⟩ := List.exists_cons_of_ne_nil otherFull
          rw [List.map_cons, List.map_cons, List.cons_beq_cons, Bool.and_eq_true] at tails
          change (first :: rest.filterMap List.head? ==
            second :: others.filterMap List.head?) = true at heads
          rw [List.cons_beq_cons, Bool.and_eq_true] at heads
          rw [List.cons_beq_cons, List.cons_beq_cons, Bool.and_eq_true, Bool.and_eq_true]
          exact ⟨⟨heads.1, tails.1⟩, ih restFull othersFull heads.2 tails.2⟩

namespace TensorType

variable {σ : Type} {allowed : σ → Prop} {left right : TensorType σ}

theorem component_block (tensor : TensorType σ) : tensor.block.component = tensor.component := by
  simp only [block]
  split <;> rfl

theorem tails_flat {tensor : TensorType σ} (regular : tensor.Regular allowed)
    (flat : tensor.nesting ≤ 1) : tensor.axes.map List.tail = List.replicate tensor.order [] := by
  refine List.eq_replicate_iff.mpr ⟨List.length_map .., fun tail member => ?_⟩
  obtain ⟨axis, axisMember, rfl⟩ := List.mem_map.mp member
  have length := regular.uniform axis axisMember
  exact List.eq_nil_of_length_eq_zero (by rw [List.length_tail]; omega)

theorem block_isScalar {tensor : TensorType σ} (proper : tensor.isScalar = false) :
    tensor.block.isScalar = true ↔ tensor.nesting ≤ 1 := by
  simp only [block]
  split
  · rename_i flat
    exact iff_of_true rfl flat
  · rename_i nested
    refine iff_of_false (fun empty => ?_) nested
    rw [isScalar, List.isEmpty_map] at empty
    exact Bool.false_ne_true (proper.symm.trans empty)

theorem isScalar_same [BEq σ] (same : (left == right) = true) : left.isScalar = right.isScalar := by
  have lengths := List.length_eq_of_beq (beq_parts.mp same).2.1
  rw [isScalar, isScalar, Bool.eq_iff_iff, List.isEmpty_iff_length_eq_zero,
    List.isEmpty_iff_length_eq_zero, lengths]

theorem same_of_blocks [BEq σ] [ReflBEq σ] (leftRegular : left.Regular allowed)
    (rightRegular : right.Regular allowed) (leftProper : left.isScalar = false)
    (rightProper : right.isScalar = false) (columns : left.column = right.column)
    (outers : (left.outer == right.outer) = true) (blocks : (left.block == right.block) = true) :
    (left == right) = true := by
  have orders : left.order = right.order := by
    rw [← leftRegular.outer_length, ← rightRegular.outer_length]
    exact List.length_eq_of_beq outers
  have flat : left.nesting ≤ 1 ↔ right.nesting ≤ 1 := by
    rw [← block_isScalar leftProper, ← block_isScalar rightProper, isScalar_same blocks]
  obtain ⟨components, blockAxes, _⟩ := beq_parts.mp blocks
  rw [component_block, component_block] at components
  refine beq_parts.mpr ⟨components, ?_, columns⟩
  refine axes_same leftRegular.nonempty rightRegular.nonempty outers ?_
  by_cases leftFlat : left.nesting ≤ 1
  · rw [tails_flat leftRegular leftFlat, tails_flat rightRegular (flat.mp leftFlat), orders]
    exact ReflBEq.rfl
  · rw [block_of_nested (Nat.lt_of_not_le leftFlat),
      block_of_nested (Nat.lt_of_not_le (mt flat.mpr leftFlat))] at blockAxes
    exact blockAxes

end TensorType

end TensorLang
