import TensorLang.Proofs.Blocks
import TensorLang.Proofs.Reads

set_option autoImplicit false

namespace TensorLang

-- The items that stand where the choice has a slice.
def sliced {α : Type} : List (Index Node) → List α → List α
  | [], _ => []
  | _ :: _, [] => []
  | .slice _ :: choice, item :: items => item :: sliced choice items
  | .at _ :: choice, _ :: items => sliced choice items

section

variable {α β : Type}

theorem sliced_nil (choice : List (Index Node)) : sliced choice ([] : List α) = [] := by
  cases choice <;> rfl

theorem sliced_map (change : α → β) (choice : List (Index Node)) (items : List α) :
    sliced choice (items.map change) = (sliced choice items).map change := by
  fun_induction sliced choice items with
  | case1 items => rfl
  | case2 index choice => rfl
  | case3 node choice item items ih => exact congrArg (change item :: ·) ih
  | case4 index choice item items ih => exact ih

theorem sliced_subset (choice : List (Index Node)) (items : List α) :
    ∀ item ∈ sliced choice items, item ∈ items := by
  fun_induction sliced choice items with
  | case1 items => exact fun _ member => (nomatch member)
  | case2 index choice => exact fun _ member => (nomatch member)
  | case3 node choice item items ih =>
      intro other member
      rcases List.mem_cons.mp member with same | later
      · exact same ▸ List.mem_cons_self
      · exact List.mem_cons_of_mem _ (ih other later)
  | case4 index choice item items ih =>
      exact fun other member => List.mem_cons_of_mem _ (ih other member)

theorem sliced_length (choice : List (Index Node)) (items : List α)
    (counts : choice.length = items.length) :
    (sliced choice items).length = choice.countP Index.isSlice := by
  fun_induction sliced choice items with
  | case1 items => rfl
  | case2 index choice => exact nomatch counts
  | case3 node choice item items ih =>
      rw [List.length_cons, ih (Nat.succ.inj counts), List.countP_cons_of_pos rfl]
  | case4 index choice item items ih =>
      rw [ih (Nat.succ.inj counts), List.countP_cons_of_neg Bool.false_ne_true]

theorem sliced_all {choice : List (Index Node)} {items : List α}
    (counts : choice.length = items.length) (slices : ∀ index ∈ choice, index.isSlice = true) :
    sliced choice items = items := by
  fun_induction sliced choice items with
  | case1 items => exact (List.length_eq_zero_iff.mp counts.symm).symm
  | case2 index choice => exact nomatch counts
  | case3 node choice item items ih =>
      rw [ih (Nat.succ.inj counts) fun index member => slices index (List.mem_cons_of_mem _ member)]
  | case4 index choice item items ih => exact nomatch slices (.at index) List.mem_cons_self

end

-- The last axis is indexed.
def endsInIndex (choice : List (Index Node)) : Bool :=
  choice.getLast?.any fun index => !index.isSlice

theorem keptAxes_positions (table : SymbolTable) (choice : List (Index Node))
    (axes : List (Axis Var)) : keptAxes (positions table choice) axes = sliced choice axes := by
  fun_induction sliced choice axes with
  | case1 axes => rfl
  | case2 index choice => cases index <;> rfl
  | case3 node choice axis axes ih => exact congrArg (axis :: ·) ih
  | case4 index choice axis axes ih => exact ih

theorem positions_end (table : SymbolTable) (choice : List (Index Node)) :
    (positions table choice).getLast?.any Position.isIndex = endsInIndex choice := by
  have kinds (index : Index Node) : (index.position table).isIndex = !index.isSlice := by
    cases index <;> rfl
  rw [positions_eq_map, List.getLast?_map, Option.any_map, endsInIndex]
  simp only [kinds]

theorem all_slices_end {choice : List (Index Node)}
    (slices : ∀ index ∈ choice, index.isSlice = true) : endsInIndex choice = false := by
  rw [endsInIndex]
  cases last : choice.getLast? with
  | none => rfl
  | some index => rw [Option.any_some, slices index (List.mem_of_getLast? last)]; rfl

namespace TensorType

variable {σ : Type} {allowed : σ → Prop} {tensor : TensorType σ} {choice : List (Index Node)}

-- The axes that the choice slices. One axis alone is a column if the choice ends in an index.
def slice (choice : List (Index Node)) (tensor : TensorType σ) : TensorType σ :=
  let kept := sliced choice tensor.axes
  ⟨tensor.component, kept, kept.length == 1 && endsInIndex choice⟩

theorem slice_scalar (component : Scalar) (choice : List (Index Node)) :
    (scalar component : TensorType σ).slice choice = scalar component := by
  simp only [slice, scalar, sliced_nil]
  rfl

theorem slice_order (counts : choice.length = tensor.order) :
    (tensor.slice choice).order = choice.countP Index.isSlice :=
  sliced_length choice tensor.axes counts

-- Nothing is lost where there is nothing to lose, or where no axis is indexed and no column is
-- turned to a row.
theorem slice_block_eq_iff (counts : choice.length = tensor.order) :
    tensor.block.slice choice = tensor.block ↔
      tensor.nesting ≤ 1 ∨ (∀ index ∈ choice, index.isSlice = true) ∧ tensor.column = false := by
  by_cases flat : tensor.nesting ≤ 1
  · rw [block, if_pos flat, slice_scalar]
    exact iff_of_true rfl (.inl flat)
  · have lengths : choice.length = (tensor.axes.map List.tail).length := by
      rw [List.length_map]
      exact counts
    rw [block_of_nested (Nat.lt_of_not_le flat)]
    constructor
    · intro same
      have axes := congrArg TensorType.axes same
      have column := congrArg TensorType.column same
      have all : ∀ index ∈ choice, index.isSlice = true := by
        rw [← List.countP_eq_length, ← sliced_length choice _ lengths, lengths]
        exact congrArg List.length axes
      refine .inr ⟨all, column.symm.trans ?_⟩
      simp only [slice, all_slices_end all, Bool.and_false]
    · rintro (shallow | ⟨all, row⟩)
      · exact absurd shallow flat
      · simp only [slice, sliced_all lengths all, all_slices_end all, Bool.and_false, row]

section

variable (regular : tensor.Regular allowed) (counts : choice.length = tensor.order)
  (slices : ∃ index ∈ choice, index.isSlice = true)
include counts slices

theorem sliced_proper : sliced choice tensor.axes ≠ [] := by
  rw [← List.length_pos_iff, sliced_length choice tensor.axes counts]
  exact List.countP_pos_iff.mpr slices

theorem readKeeping_sliced :
    tensor.readKeeping (sliced choice tensor.axes) (endsInIndex choice) = tensor.slice choice :=
  if_neg (by simpa using sliced_proper counts slices)

include regular

theorem slice_regular : (tensor.slice choice).Regular allowed := by
  rw [← readKeeping_sliced counts slices]
  exact readKeeping_regular regular _ _ (sliced_subset choice tensor.axes)

theorem slice_nesting : (tensor.slice choice).nesting = tensor.nesting := by
  obtain ⟨first, rest, kept⟩ := List.exists_cons_of_ne_nil (sliced_proper counts slices)
  have member : first ∈ tensor.axes := sliced_subset choice tensor.axes first (by simp [kept])
  rw [← regular.uniform first member, nesting, slice, kept]

theorem block_slice : (tensor.slice choice).block = tensor.block.slice choice := by
  have depths := slice_nesting regular counts slices
  by_cases flat : tensor.nesting ≤ 1
  · rw [block, if_pos (depths ▸ flat), block, if_pos flat, slice_scalar]
    rfl
  · have nested : 1 < tensor.nesting := Nat.lt_of_not_le flat
    rw [block_of_nested (depths ▸ nested), block_of_nested nested]
    simp only [slice, sliced_map, List.length_map]

end

end TensorType

-- An integer, for which nothing is reported.
def Expr.Integral (table : SymbolTable) (expression : Expr Node) : Prop :=
  (∃ type, (expression.infer table .read).value = .one type ∧ type.isInt = true) ∧
    (expression.infer table .read).log.errors = []

section

variable {table : SymbolTable} {allowed : Var → Prop} {base : Expr Node} {tensor : TensorType Var}

theorem choice_integral {choice : List (Index Node)}
    (integers : ∀ index, Index.at index ∈ choice → index.Integral table) :
    (∀ position ∈ positions table choice, position.Integral) ∧
      (positions table choice).flatMap Position.errors = [] := by
  rw [positions_eq_map]
  constructor
  · intro position member
    obtain ⟨index, chosen, rfl⟩ := List.mem_map.mp member
    cases index with
    | slice node => trivial
    | «at» index => exact (integers index chosen).1
  · rw [List.flatMap_map, List.flatMap_eq_nil_iff]
    intro index chosen
    cases index with
    | slice node => rfl
    | «at» index => exact (integers index chosen).2

theorem infer_sliced (regular : tensor.Regular allowed)
    (typed : (base.infer table .read).value = .tensor tensor) {choice : List (Index Node)}
    (counts : choice.length = tensor.order) (slices : ∃ index ∈ choice, index.isSlice = true)
    (integers : ∀ index, Index.at index ∈ choice → index.Integral table) (node : Node) :
    let part := (Expr.read node base choice).infer table .read
    part.value = .tensor (tensor.slice choice) ∧
      part.log.errors = (base.infer table .read).log.errors := by
  have lengths : tensor.order = (positions table choice).length := by
    rw [positions_length, counts]
  obtain ⟨integral, silent⟩ := choice_integral integers
  constructor
  · rw [infer_read_value typed, check_read_value regular node.span lengths, keptAxes_positions,
      positions_end, TensorType.readKeeping_sliced counts slices]
  · rw [infer_read_errors typed, integral_read_errors regular node.span lengths integral, silent,
      List.append_nil]
    rfl

theorem infer_indexed (regular : tensor.Regular allowed)
    (typed : (base.infer table .read).value = .tensor tensor) {indices : List (Expr Node)}
    (counts : indices.length = tensor.order)
    (integers : ∀ index ∈ indices, index.Integral table) (node : Node) :
    let read := (Expr.read node base (indices.map .at)).infer table .read
    read.value = .tensor tensor.block ∧
      read.log.errors = (base.infer table .read).log.errors := by
  obtain ⟨value, errors⟩ := infer_read_block .read regular typed counts.symm
    fun index member => (integers index member).1
  refine ⟨value, errors.trans ?_⟩
  rw [List.flatMap_eq_nil_iff.mpr fun index member => (integers index member).2, List.append_nil]
  rfl

end

/--
A tensor is read with a choice of slices and integers, and what is left of it at an integer for each
of its axes. Nothing is reported for it, and the type is the slice, by the same choice, of the block
that the tensor gives when it is read at integers alone. It is that block if the tensor is not
blocked, or if it is sliced throughout and no column, and otherwise it is not.
-/
theorem sliced_then_indexed {table : SymbolTable} {allowed : Var → Prop} {base : Expr Node}
    {tensor : TensorType Var} (regular : tensor.Regular allowed)
    (typed : (base.infer table .read).value = .tensor tensor) {choice : List (Index Node)}
    (counts : choice.length = tensor.order) (slices : ∃ index ∈ choice, index.isSlice = true)
    (integers : ∀ index, Index.at index ∈ choice → index.Integral table)
    {later all : List (Expr Node)} (laterCounts : later.length = choice.countP Index.isSlice)
    (laterIntegers : ∀ index ∈ later, index.Integral table) (allCounts : all.length = tensor.order)
    (allIntegers : ∀ index ∈ all, index.Integral table) (partNode twiceNode onceNode : Node) :
    let part := (Expr.read partNode base choice).infer table .read
    let twice :=
      (Expr.read twiceNode (.read partNode base choice) (later.map .at)).infer table .read
    let once := (Expr.read onceNode base (all.map .at)).infer table .read
    part.value = .tensor (tensor.slice choice) ∧ (tensor.slice choice).order = later.length ∧
      twice.value = .tensor (tensor.block.slice choice) ∧ once.value = .tensor tensor.block ∧
      part.log.errors = (base.infer table .read).log.errors ∧
      twice.log.errors = (base.infer table .read).log.errors ∧
      once.log.errors = (base.infer table .read).log.errors ∧
      (twice.value = once.value ↔
        tensor.nesting ≤ 1 ∨ (∀ index ∈ choice, index.isSlice = true) ∧ tensor.column = false) := by
  intro part twice once
  obtain ⟨partValue, partErrors⟩ := infer_sliced regular typed counts slices integers partNode
  have order := TensorType.slice_order counts
  obtain ⟨twiceValue, twiceErrors⟩ :=
    infer_indexed (TensorType.slice_regular regular counts slices) partValue
      (laterCounts.trans order.symm) laterIntegers twiceNode
  obtain ⟨onceValue, onceErrors⟩ := infer_indexed regular typed allCounts allIntegers onceNode
  rw [TensorType.block_slice regular counts slices] at twiceValue
  refine ⟨partValue, order.trans laterCounts.symm, twiceValue, onceValue, partErrors,
    twiceErrors.trans partErrors, onceErrors, ?_⟩
  rw [← TensorType.slice_block_eq_iff counts]
  change twice.value = _ at twiceValue
  change once.value = _ at onceValue
  rw [twiceValue, onceValue]
  constructor
  · intro same
    exact Ty.tensor.inj (List.cons.inj (Option.some.inj same)).1
  · intro same
    rw [same]

theorem matrix_row_indexed :
    let node : Node := ⟨0, .origin⟩
    let matrix : TensorType Var := ⟨.float, [[.range 3, .range 2], [.dynamic, .range 5]], false⟩
    let table := SymbolTable.empty.bind "A" (some (.tensor matrix)) .read
    let base : Expr Node := .ident ⟨node, "A"⟩
    let choice : List (Index Node) := [.at (.int node 0), .slice node]
    let later : List (Expr Node) := [.int node 1]
    let all : List (Expr Node) := [.int node 0, .int node 1]
    let twice := (Expr.read node (.read node base choice) (later.map .at)).infer table .read
    let once := (Expr.read node base (all.map .at)).infer table .read
    (matrix.Regular fun _ => True) ∧ (base.infer table .read).value = .tensor matrix ∧
      choice.length = matrix.order ∧ (∃ index ∈ choice, index.isSlice = true) ∧
      (∀ index, Index.at index ∈ choice → index.Integral table) ∧
      later.length = choice.countP Index.isSlice ∧ (∀ index ∈ later, index.Integral table) ∧
      all.length = matrix.order ∧ (∀ index ∈ all, index.Integral table) ∧
      twice.value = .tensor ⟨.float, [[.range 5]], false⟩ ∧
      once.value = .tensor ⟨.float, [[.range 2], [.range 5]], false⟩ ∧
      twice.log.errors = [] ∧ once.log.errors = [] := by
  intro node matrix table base choice later all twice once
  have regular : matrix.Regular fun _ => True :=
    TensorType.regular_of_axes .float _ false 2 (by decide) (by decide) (by simp) (by simp)
  have literal (value : Int) : (Expr.int node value).Integral table := ⟨⟨.int, rfl, rfl⟩, rfl⟩
  have typed : (base.infer table .read).value = .tensor matrix := rfl
  have slices : ∃ index ∈ choice, index.isSlice = true := ⟨.slice node, by simp [choice], rfl⟩
  have integers : ∀ index, Index.at index ∈ choice → index.Integral table := by
    intro index member
    rcases List.mem_cons.mp member with same | rest
    · exact Index.at.inj same ▸ literal 0
    · exact nomatch List.mem_singleton.mp rest
  have laterIntegers : ∀ index ∈ later, index.Integral table :=
    List.forall_mem_singleton.mpr (literal 1)
  have allIntegers : ∀ index ∈ all, index.Integral table :=
    List.forall_mem_cons.mpr ⟨literal 0, List.forall_mem_singleton.mpr (literal 1)⟩
  obtain ⟨_, _, twiceValue, onceValue, _, twiceErrors, onceErrors, _⟩ :=
    sliced_then_indexed regular typed rfl slices integers rfl laterIntegers rfl allIntegers node
      node node
  exact ⟨regular, typed, rfl, slices, integers, rfl, laterIntegers, rfl, allIntegers, twiceValue,
    onceValue, twiceErrors, onceErrors⟩

/--
The slice of a matrix of matrices has lost the rows of the blocks, and the slice of a column of
columns their orientation.
-/
theorem slices_cut_blocks :
    let node : Node := ⟨0, .origin⟩
    let matrix : TensorType Var := ⟨.float, [[.range 3, .range 2], [.range 4, .range 2]], false⟩
    let column : TensorType Var := ⟨.float, [[.range 4, .range 3]], true⟩
    let table := (SymbolTable.empty.bind "A" (some (.tensor matrix)) .read).bind "v"
      (some (.tensor column)) .read
    let A : Expr Node := .ident ⟨node, "A"⟩
    let v : Expr Node := .ident ⟨node, "v"⟩
    let zero : Index Node := .at (.int node 0)
    let value (expression : Expr Node) := (expression.infer table .read).value
    (matrix.Regular fun _ => True) ∧ (column.Regular fun _ => True) ∧
      value A = .tensor matrix ∧ value v = .tensor column ∧
      value (.read node (.read node A [zero, .slice node]) [zero]) =
        .tensor ⟨.float, [[.range 2]], false⟩ ∧
      value (.read node A [zero, zero]) = .tensor ⟨.float, [[.range 2], [.range 2]], false⟩ ∧
      value (.read node (.read node v [.slice node]) [zero]) =
        .tensor ⟨.float, [[.range 3]], false⟩ ∧
      value (.read node v [zero]) = .tensor ⟨.float, [[.range 3]], true⟩ ∧
      value (.read node (.read node A [zero, .slice node]) [zero]) ≠
        value (.read node A [zero, zero]) ∧
      value (.read node (.read node v [.slice node]) [zero]) ≠ value (.read node v [zero]) := by
  intro node matrix column table A v zero value
  have matrixRegular : matrix.Regular fun _ => True :=
    TensorType.regular_of_axes .float _ false 2 (by decide) (by decide) (by simp) (by simp)
  have columnRegular : column.Regular fun _ => True :=
    TensorType.regular_of_axes .float _ true 2 (fun _ => rfl) (by decide) (by simp) (by simp)
  refine ⟨matrixRegular, columnRegular, rfl, rfl, rfl, rfl, rfl, rfl, ?_, ?_⟩
  · intro same
    have types : some [Ty.tensor ⟨.float, [[.range 2]], false⟩] =
      some [.tensor ⟨.float, [[.range 2], [.range 2]], false⟩] := same
    exact nomatch types
  · intro same
    have types : some [Ty.tensor ⟨.float, [[.range 3]], false⟩] =
      some [.tensor ⟨.float, [[.range 3]], true⟩] := same
    exact nomatch types

end TensorLang
