import TensorLang.Proofs.Blocks
import TensorLang.Proofs.Reads
import TensorLang.Proofs.TransposedProducts

set_option autoImplicit false

namespace TensorLang

namespace TensorType

variable {σ : Type} {allowed : σ → Prop} {tensor : TensorType σ}

theorem eq_matrix (regular : tensor.Regular allowed) (matrix : tensor.order = 2) :
    ∃ component row rows column columns,
      tensor = ⟨component, [row :: rows, column :: columns], false⟩ ∧
        rows.length = columns.length := by
  obtain ⟨component, axes, oriented⟩ := tensor
  obtain ⟨first, second, rfl⟩ := List.length_eq_two.mp matrix
  obtain ⟨row, rows, rfl⟩ := List.exists_cons_of_ne_nil (regular.nonempty first (by simp))
  obtain ⟨column, columns, rfl⟩ := List.exists_cons_of_ne_nil (regular.nonempty second (by simp))
  have upright : oriented = false := by
    rw [← Bool.not_eq_true]
    intro turned
    exact nomatch matrix.symm.trans (regular.column turned)
  have depths : (column :: columns).length = (row :: rows).length :=
    regular.uniform (column :: columns) (by simp)
  exact ⟨component, row, rows, column, columns, by rw [upright], (Nat.succ.inj depths).symm⟩

theorem block_transposed (component : Scalar) (row column : IndexSet σ) {rows columns : Axis σ}
    (depths : rows.length = columns.length) :
    (⟨component, [row :: rows, column :: columns], false⟩ : TensorType σ).block.transposed? =
      some (⟨component, [column :: columns, row :: rows], false⟩ : TensorType σ).block := by
  cases rows with
  | nil =>
      obtain rfl := List.length_eq_zero_iff.mp depths.symm
      rfl
  | cons inner rows =>
      cases columns with
      | nil => exact nomatch depths
      | cons other columns => rfl

end TensorType

section

variable (component : Scalar) (row column : IndexSet Var) {rows columns : Axis Var}

theorem keeping_transposed (depths : rows.length = columns.length) (first second : Position) :
    let matrix : TensorType Var := ⟨component, [row :: rows, column :: columns], false⟩
    let turned : TensorType Var := ⟨component, [column :: columns, row :: rows], false⟩
    (matrix.readKeeping (keptAxes [first, second] matrix.axes) second.isIndex).transposed? =
      some (turned.readKeeping (keptAxes [second, first] turned.axes) first.isIndex) := by
  cases first with
  | slice => cases second <;> rfl
  | «at» visit =>
      cases second with
      | slice => rfl
      | «at» other => exact TensorType.block_transposed component row column depths

theorem pair_read_errors (rows columns : Axis Var) (first second : Position) (span : Span) :
    ((⟨component, [row :: rows, column :: columns], false⟩ : TensorType Var).checkRead span
      [first, second]).log.errors =
      (first.readAxis (row :: rows) row).log.errors ++
        (second.readAxis (column :: columns) column).log.errors := by
  rw [check_read_errors span rfl]
  simp [TensorType.outer]

end

section

variable {table : SymbolTable} {base : Expr Node} {tensor turned : TensorType Var}

theorem infer_transposed (typed : (base.infer table .read).value = .tensor tensor)
    (turns : tensor.transposed? = some turned) (node : Node) :
    ((Expr.transpose node base).infer table .read).value = .tensor turned ∧
      ((Expr.transpose node base).infer table .read).log.errors =
        (base.infer table .read).log.errors := by
  have found : transposedTypes? [.tensor tensor] = some turned := turns
  constructor
  · simp [Expr.infer, check_transpose_promised, typed, Outcome.tensor, Outcome.one, found,
      Outcome.ofTensor?, Outcome.ofType?]
  · simp [Expr.infer, check_transpose_promised, Operand.expect, typed, Outcome.tensor,
      Outcome.one, found]

end

theorem transposed_check_read {allowed : Var → Prop} {tensor turned : TensorType Var}
    (regular : tensor.Regular allowed) (matrix : tensor.order = 2)
    (turns : tensor.transposed? = some turned) (first second : Position) (span turnedSpan : Span) :
    let straight := tensor.checkRead span [first, second]
    let reversed := turned.checkRead turnedSpan [second, first]
    (∃ found foundTurned, straight.value = .tensor found ∧ found.transposed? = some foundTurned ∧
        reversed.value = .tensor foundTurned) ∧
      reversed.log.errors.Perm straight.log.errors := by
  intro straight reversed
  have turnedRegular := TensorType.transposed_regular regular turns
  obtain ⟨component, row, rows, column, columns, rfl, depths⟩ :=
    TensorType.eq_matrix regular matrix
  cases turns
  constructor
  · exact ⟨_, _, check_read_value regular span rfl,
      keeping_transposed component row column depths first second,
      check_read_value turnedRegular turnedSpan rfl⟩
  · have straightErrors := pair_read_errors component row column rows columns first second span
    have reversedErrors :=
      pair_read_errors component column row columns rows second first turnedSpan
    change straight.log.errors = _ at straightErrors
    change reversed.log.errors = _ at reversedErrors
    rw [straightErrors, reversedErrors]
    exact List.perm_append_comm

/--
A matrix is read at two positions, each of which is a slice or any expression, and its transpose at
the same positions in reverse order. The type of the second read is the transpose of the type of the
first, and the same errors are reported.
-/
theorem transposed_read {table : SymbolTable} {allowed : Var → Prop} {base : Expr Node}
    {tensor : TensorType Var} (regular : tensor.Regular allowed) (matrix : tensor.order = 2)
    (typed : (base.infer table .read).value = .tensor tensor) (first second : Index Node)
    (straightNode reversedNode innerNode outerNode : Node) :
    let straight := (Expr.read straightNode base [first, second]).infer table .read
    let reversed :=
      (Expr.read reversedNode (.transpose innerNode base) [second, first]).infer table .read
    let after :=
      (Expr.transpose outerNode (.read straightNode base [first, second])).infer table .read
    (∃ turned, tensor.transpose = .ok (some turned) ∧
        ((Expr.transpose innerNode base).infer table .read).value = .tensor turned) ∧
      (∃ found foundTurned, straight.value = .tensor found ∧
        found.transpose = .ok (some foundTurned) ∧ reversed.value = .tensor foundTurned) ∧
      after.value = reversed.value ∧ after.log.errors = straight.log.errors ∧
      reversed.log.errors.Perm straight.log.errors := by
  intro straight reversed after
  obtain ⟨turned, turns⟩ := TensorType.transposed_exists (Nat.le_of_eq matrix)
  obtain ⟨turnedValue, turnedErrors⟩ := infer_transposed typed turns innerNode
  obtain ⟨⟨found, foundTurned, value, foundTurns, reversedValue⟩, alike⟩ :=
    transposed_check_read regular matrix turns (first.position table) (second.position table)
      straightNode.span reversedNode.span
  have straightPositions := positions_eq_map table [first, second]
  have reversedPositions := positions_eq_map table [second, first]
  have straightTyped : straight.value = .tensor found := by
    rw [infer_read_value typed, straightPositions]
    exact value
  have reversedTyped : reversed.value = .tensor foundTurned := by
    rw [infer_read_value turnedValue, reversedPositions]
    exact reversedValue
  obtain ⟨afterValue, afterErrors⟩ := infer_transposed straightTyped foundTurns outerNode
  refine ⟨⟨turned, by rw [tensor.transpose_promised, turns], turnedValue⟩,
    ⟨found, foundTurned, straightTyped, by rw [found.transpose_promised, foundTurns],
      reversedTyped⟩, afterValue.trans reversedTyped.symm, afterErrors, ?_⟩
  have straightErrors : straight.log.errors = _ := infer_read_errors typed
  have reversedErrors : reversed.log.errors = _ := infer_read_errors turnedValue
  rw [straightErrors, reversedErrors, straightPositions, reversedPositions]
  exact turnedErrors ▸ List.Perm.append_left _ alike

theorem matrix_row_transposed :
    let node : Node := ⟨0, .origin⟩
    let matrix : TensorType Var := ⟨.float, [[.range 3, .range 2], [.dynamic, .range 5]], false⟩
    let table := SymbolTable.empty.bind "A" (some (.tensor matrix)) .read
    let base : Expr Node := .ident ⟨node, "A"⟩
    let first : Index Node := .at (.bool node true)
    let second : Index Node := .slice node
    let straight := (Expr.read node base [first, second]).infer table .read
    let reversed := (Expr.read node (.transpose node base) [second, first]).infer table .read
    (matrix.Regular fun _ => True) ∧ matrix.order = 2 ∧
      (base.infer table .read).value = .tensor matrix ∧
      straight.value = .tensor ⟨.float, [[.dynamic, .range 5]], false⟩ ∧
      reversed.value = .tensor ⟨.float, [[.dynamic, .range 5]], true⟩ ∧
      straight.log.errors.length = 1 ∧ reversed.log.errors.Perm straight.log.errors := by
  intro node matrix table base first second straight reversed
  have regular : matrix.Regular fun _ => True :=
    TensorType.regular_of_axes .float _ false 2 (by decide) (by decide) (by simp) (by simp)
  have typed : (base.infer table .read).value = .tensor matrix := rfl
  obtain ⟨_, ⟨found, foundTurned, straightValue, turns, reversedValue⟩, _, _, alike⟩ :=
    transposed_read regular rfl typed first second node node node node
  have row : straight.value = .tensor ⟨.float, [[.dynamic, .range 5]], false⟩ := rfl
  cases row.symm.trans straightValue
  cases turns
  exact ⟨regular, rfl, typed, row, reversedValue, rfl, alike⟩

end TensorLang
