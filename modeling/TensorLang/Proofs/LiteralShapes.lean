import TensorLang.Tree.Rectangles
import TensorLang.Proofs.InitialValues

set_option autoImplicit false

namespace TensorLang

section Rows

variable {ν : Type}

theorem rowLeaves_eq_flatMap (rows : List (Dense ν)) :
    rowLeaves rows = rows.flatMap Dense.leaves := by
  induction rows with
  | nil => rfl
  | cons row rows held => rw [rowLeaves, held, List.flatMap_cons]

theorem rowBranches_eq_flatMap (rows : List (Dense ν)) :
    rowBranches rows = rows.flatMap Dense.branches := by
  induction rows with
  | nil => rfl
  | cons row rows held => rw [rowBranches, held, List.flatMap_cons]

theorem mem_leaves_nested {leaf : Leaf} {node : ν} {rows : List (Dense ν)} {transposed : Bool} :
    leaf ∈ (Dense.nested node rows transposed).leaves ↔
      ∃ row ∈ rows, ∃ within ∈ row.leaves, within.deepen = leaf := by
  simp only [Dense.leaves, rowLeaves_eq_flatMap, List.map_flatMap, List.mem_flatMap, List.mem_map]

theorem mem_branches_nested {branch : Branch} {node : ν} {rows : List (Dense ν)}
    {transposed : Bool} :
    branch ∈ (Dense.nested node rows transposed).branches ↔
      branch = ⟨0, rows.length⟩ ∨
        ∃ row ∈ rows, ∃ within ∈ row.branches, within.deepen = branch := by
  simp only [Dense.branches, rowBranches_eq_flatMap, List.map_flatMap, List.mem_cons,
    List.mem_flatMap, List.mem_map]

end Rows

namespace Dense

variable {ν : Type} {node : ν} {rows : List (Dense ν)} {transposed : Bool} {component : Scalar}
  {sizes : List Nat}

theorem Bounded.row (bounded : (nested node rows transposed).Bounded) :
    ∀ row ∈ rows, row.Bounded := by
  intro row listed
  refine ⟨fun leaf found => ?_, fun branch found => ?_⟩
  · exact bounded.leaves leaf.deepen (mem_leaves_nested.mpr ⟨row, listed, leaf, found, rfl⟩)
  · exact bounded.branches branch.deepen
      (mem_branches_nested.mpr (.inr ⟨row, listed, branch, found, rfl⟩))

theorem rectangular_vector {literal : Dense ν} {kind : Scalar} {length : Nat}
    (leaves : literal.leaves = [⟨0, kind, length⟩]) (branches : literal.branches = []) :
    literal.Rectangular component sizes ↔ kind = component ∧ sizes = [length] := by
  constructor
  · intro rectangular
    obtain ⟨same, single, last⟩ := rectangular.leaves ⟨0, kind, length⟩ (by simp [leaves])
    obtain ⟨size, rfl⟩ := List.length_eq_one_iff.mp single.symm
    simp only [List.getLast?_singleton, Option.some.injEq] at last
    exact ⟨same, by rw [last]⟩
  · rintro ⟨rfl, rfl⟩
    exact ⟨by simp [leaves], by simp [branches]⟩

theorem rectangular_nested :
    (nested node rows transposed).Rectangular component sizes ↔
      ∃ inner, 1 ≤ rows.length ∧ sizes = rows.length :: inner ∧
        ∀ row ∈ rows, row.Rectangular component inner := by
  constructor
  · intro rectangular
    obtain ⟨positive, outermost⟩ :=
      rectangular.branches ⟨0, rows.length⟩ (mem_branches_nested.mpr (.inl rfl))
    obtain ⟨size, inner, rfl⟩ : ∃ size inner, sizes = size :: inner :=
      List.exists_cons_of_ne_nil fun flat => by simp [flat] at outermost
    simp only [List.getElem?_cons_zero, Option.some.injEq] at outermost
    refine ⟨inner, positive, by rw [outermost], fun row listed => ⟨?_, ?_⟩⟩
    · intro leaf found
      obtain ⟨same, deep, last⟩ := rectangular.leaves leaf.deepen
        (mem_leaves_nested.mpr ⟨row, listed, leaf, found, rfl⟩)
      simp only [Leaf.deepen, List.length_cons, Nat.add_right_cancel_iff] at same deep last
      obtain ⟨next, further, rfl⟩ := List.exists_cons_of_length_eq_add_one deep.symm
      exact ⟨same, deep, last⟩
    · intro branch found
      exact rectangular.branches branch.deepen
        (mem_branches_nested.mpr (.inr ⟨row, listed, branch, found, rfl⟩))
  · rintro ⟨inner, positive, rfl, each⟩
    refine ⟨fun leaf found => ?_, fun branch found => ?_⟩
    · obtain ⟨row, listed, within, present, rfl⟩ := mem_leaves_nested.mp found
      obtain ⟨same, deep, last⟩ := (each row listed).leaves within present
      obtain ⟨next, further, rfl⟩ := List.exists_cons_of_length_eq_add_one deep.symm
      exact ⟨same, congrArg (· + 1) deep, last⟩
    · obtain rfl | ⟨row, listed, within, present, rfl⟩ := mem_branches_nested.mp found
      · exact ⟨positive, rfl⟩
      · exact (each row listed).branches within present

end Dense

section Shapes

variable {ν : Type}

theorem except_bind_ok {ε α β : Type} {result : Except ε α} {next : α → Except ε β} {value : β} :
    (result >>= next) = .ok value ↔ ∃ first, result = .ok first ∧ next first = .ok value := by
  cases result with
  | error fault => simp [bind, Except.bind]
  | ok first => simp [bind, Except.bind]

-- The outcome of a traversal that gives up at the first offence.
def verdict {α : Type} (offences : List ShapeFault) (value : α) : Except ShapeFault α :=
  match offences with
  | [] => .ok value
  | fault :: _ => .error fault

theorem verdict_ok {α : Type} {offences : List ShapeFault} {value result : α} :
    verdict offences value = .ok result ↔ offences = [] ∧ value = result := by
  cases offences <;> simp [verdict]

theorem verdict_append {α β : Type} (early late : List ShapeFault) (value : α) (result : β) :
    verdict (early ++ late) result = (verdict early value >>= fun _ => verdict late result) := by
  cases early <;> rfl

theorem verdict_bind {α β : Type} (offences : List ShapeFault) (value : α) (next : α → β) :
    (verdict offences value >>= fun found => Except.ok (next found)) =
      verdict offences (next value) := by
  cases offences <;> rfl

theorem clashes_none {row first : Shape} : clashes (some row) (some first) = [] ↔ row = first := by
  obtain ⟨component, sizes⟩ := row
  obtain ⟨kind, lengths⟩ := first
  simp only [clashes, Shape.mk.injEq]
  split
  · simp_all
  · split <;> simp_all

theorem countRows_cons (shape : Shape) (row : Dense ν) (rows : List (Dense ν)) :
    countRows shape (row :: rows) = (do
      let other ← row.shape
      verdict (clashes (some other) (some shape)) ()
      return (← countRows shape rows) + 1) := by
  rw [countRows]
  refine congrArg _ (funext fun other => ?_)
  simp only [clashes]
  split
  · rfl
  · split <;> rfl

theorem countRows_ok {shape : Shape} {rows : List (Dense ν)} {count : Nat} :
    countRows shape rows = .ok count ↔
      rows.length = count ∧ ∀ row ∈ rows, row.shape = .ok shape := by
  induction rows generalizing count with
  | nil => simp [countRows, pure, Except.pure]
  | cons row rows held =>
      simp only [countRows_cons, except_bind_ok, verdict_ok, clashes_none, held,
        List.forall_mem_cons, List.length_cons]
      constructor
      · rintro ⟨other, shaped, _, ⟨rfl, _⟩, _, ⟨rfl, others⟩, counted⟩
        cases counted
        exact ⟨rfl, shaped, others⟩
      · rintro ⟨rfl, shaped, others⟩
        exact ⟨shape, shaped, (), ⟨rfl, trivial⟩, rows.length, ⟨rfl, others⟩, rfl⟩

theorem shape_nested {node : ν} {first : Dense ν} {rest : List (Dense ν)} {transposed : Bool}
    {component : Scalar} {sizes : List Nat} :
    (Dense.nested node (first :: rest) transposed).shape = .ok ⟨component, sizes⟩ ↔
      ∃ inner, sizes = (first :: rest).length :: inner ∧
        ∀ row ∈ first :: rest, row.shape = .ok ⟨component, inner⟩ := by
  simp only [Dense.shape, except_bind_ok, countRows_ok, List.forall_mem_cons, List.length_cons]
  constructor
  · rintro ⟨⟨_, inner⟩, shaped, _, ⟨rfl, others⟩, whole⟩
    cases whole
    exact ⟨inner, rfl, shaped, others⟩
  · rintro ⟨inner, rfl, shaped, others⟩
    exact ⟨_, shaped, _, ⟨rfl, others⟩, rfl⟩

theorem vector_within (component : Scalar) {length : Nat} (small : length < UInt32.size) :
    Shape.vector component length = ⟨component, [length]⟩ := by
  have within : length ≤ Shape.maxSize := Nat.le_pred_of_lt small
  rw [Shape.vector, Nat.min_eq_left within]

theorem vector_rectangular {literal : Dense ν} {kind component : Scalar} {length : Nat}
    {sizes : List Nat} (leaves : literal.leaves = [⟨0, kind, length⟩])
    (branches : literal.branches = []) (bounded : literal.Bounded) :
    Except.ok (Shape.vector kind length) = (.ok ⟨component, sizes⟩ : Except ShapeFault Shape) ↔
      literal.Rectangular component sizes := by
  have small : length < UInt32.size := bounded.leaves ⟨0, kind, length⟩ (by simp [leaves])
  rw [Dense.rectangular_vector leaves branches, vector_within kind small, Except.ok.injEq,
    Shape.mk.injEq, eq_comm (a := sizes)]

mutual
theorem shape_rectangular (literal : Dense ν) (bounded : literal.Bounded) (component : Scalar)
    (sizes : List Nat) :
    literal.shape = .ok ⟨component, sizes⟩ ↔ literal.Rectangular component sizes := by
  cases literal with
  | ints node values transposed => exact vector_rectangular rfl rfl bounded
  | floats node values transposed => exact vector_rectangular rfl rfl bounded
  | nested node rows transposed =>
      have each := rows_rectangular rows bounded.row component
      rw [Dense.rectangular_nested]
      cases rows with
      | nil => simp [Dense.shape]
      | cons first rest =>
          have positive : 1 ≤ (first :: rest).length := Nat.le_add_left 1 rest.length
          simp only [shape_nested, each, positive, true_and]
theorem rows_rectangular (rows : List (Dense ν)) (bounded : ∀ row ∈ rows, row.Bounded)
    (component : Scalar) (sizes : List Nat) :
    (∀ row ∈ rows, row.shape = .ok ⟨component, sizes⟩) ↔
      ∀ row ∈ rows, row.Rectangular component sizes := by
  cases rows with
  | nil => simp
  | cons row rows =>
      rw [List.forall_mem_cons] at bounded
      rw [List.forall_mem_cons, List.forall_mem_cons,
        shape_rectangular row bounded.1 component sizes,
        rows_rectangular rows bounded.2 component sizes]
end

mutual
theorem scalarCount_rectangular (literal : Dense ν) {component : Scalar} {sizes : List Nat}
    (rectangular : literal.Rectangular component sizes) : sizes.prod = literal.scalarCount := by
  cases literal with
  | ints node values transposed =>
      obtain ⟨_, rfl⟩ := (Dense.rectangular_vector rfl rfl).mp rectangular
      exact List.prod_singleton
  | floats node values transposed =>
      obtain ⟨_, rfl⟩ := (Dense.rectangular_vector rfl rfl).mp rectangular
      exact List.prod_singleton
  | nested node rows transposed =>
      obtain ⟨inner, _, rfl, each⟩ := Dense.rectangular_nested.mp rectangular
      rw [List.prod_cons, Dense.scalarCount, rowScalars_rectangular rows each]
theorem rowScalars_rectangular (rows : List (Dense ν)) {component : Scalar} {sizes : List Nat}
    (each : ∀ row ∈ rows, row.Rectangular component sizes) :
    rowScalars rows = rows.length * sizes.prod := by
  cases rows with
  | nil => simp [rowScalars]
  | cons row rows =>
      rw [List.forall_mem_cons] at each
      rw [rowScalars, ← scalarCount_rectangular row each.1, rowScalars_rectangular rows each.2,
        List.length_cons, Nat.succ_mul, Nat.add_comm]
end

mutual
theorem shape_by_offences (literal : Dense ν) (bounded : literal.Bounded) :
    ∃ shape, (literal.offences = [] → literal.spine = some shape) ∧
      literal.shape = verdict literal.offences shape := by
  match literal with
  | .ints node values transposed =>
      have small := bounded.leaves ⟨0, .int, values.length⟩ (by simp [Dense.leaves])
      exact ⟨_, fun _ => rfl, congrArg Except.ok (vector_within .int small)⟩
  | .floats node values transposed =>
      have small := bounded.leaves ⟨0, .float, values.length⟩ (by simp [Dense.leaves])
      exact ⟨_, fun _ => rfl, congrArg Except.ok (vector_within .float small)⟩
  | .nested node [] transposed => exact ⟨⟨.int, []⟩, fun clean => (nomatch clean), rfl⟩
  | .nested node (first :: rest) transposed =>
      obtain ⟨leading, others⟩ := List.forall_mem_cons.mp bounded.row
      obtain ⟨shape, spine, shaped⟩ := shape_by_offences first leading
      refine ⟨⟨shape.component, (rest.length + 1) :: shape.sizes⟩, fun clean => ?_, ?_⟩
      · rw [Dense.offences, List.append_eq_nil_iff] at clean
        simp [Dense.spine, firstSpine, spine clean.1]
      · rw [Dense.shape, Dense.offences, verdict_append _ _ shape, shaped]
        cases within : first.offences with
        | cons fault _ => rfl
        | nil =>
            rw [spine within]
            exact (congrArg (· >>= _) (count_by_offences shape rest others)).trans
              (verdict_bind ..)
theorem count_by_offences (shape : Shape) (rows : List (Dense ν))
    (bounded : ∀ row ∈ rows, row.Bounded) :
    countRows shape rows = verdict (offencesBeside (some shape) rows) rows.length := by
  cases rows with
  | nil => rfl
  | cons row rows =>
      rw [List.forall_mem_cons] at bounded
      obtain ⟨other, spine, shaped⟩ := shape_by_offences row bounded.1
      rw [countRows_cons, offencesBeside, verdict_append _ _ other, shaped,
        count_by_offences shape rows bounded.2]
      cases within : row.offences with
      | cons fault _ => rfl
      | nil =>
          rw [spine within, verdict_append _ _ ()]
          exact congrArg (verdict (clashes (some other) (some shape)) () >>= ·)
            (funext fun _ => verdict_bind ..)
end

end Shapes

section Declarations

theorem ranges_resolve (table : SymbolTable) (node inner : Node) (ranges : List (Node × Nat))
    (component : Scalar) :
    (TypeExpr.tensor node (ranges.map fun range => .range range.1 range.2)
      (.scalar inner component) false).resolve table =
        return some (.tensor (Shape.tensor ⟨component, ranges.map Prod.snd⟩ false)) := by
  have leading : (ranges.map fun range => Domain.range range.1 range.2).mapM
      (Domain.resolve table) =
        return (ranges.map fun range => some (IndexSet.range range.2)) := by
    rw [List.mapM_map]
    exact List.mapM_pure
  have present : allPresent (ranges.map fun range => some (IndexSet.range range.2 : IndexSet Var)) =
      some (ranges.map fun range => .range range.2) := by
    rw [allPresent, List.mapM_map]
    exact List.mapM_pure
  simp only [TypeExpr.resolve, leading, pure_bind, present, Ty.ofScalar, Ty.tensorOf]
  cases ranges with
  | nil => rfl
  | cons range ranges =>
      simp [TensorType.ofBlocks?, TensorType.oriented, Shape.tensor, TensorType.scalar,
        TensorType.isScalar, Function.comp_def]

theorem range_axes_same (sizes others : List Nat) :
    ((sizes.map fun size => [(.range size : IndexSet Var)]) ==
      others.map fun size => [.range size]) = true ↔ others = sizes := by
  have same_range (size other : Nat) :
      (IndexSet.range size == (.range other : IndexSet Var)) = (size == other) := rfl
  induction sizes generalizing others with
  | nil => cases others <;> simp
  | cons size sizes same =>
      cases others with
      | nil => simp
      | cons other others => simp [same, same_range, eq_comm (a := size)]

-- A tensor with axes cannot fill another one, so only its own type holds it.
theorem startsAs_shape (declared found : Shape) (proper : found.sizes ≠ []) :
    Ty.startsAs (.tensor (declared.tensor false)) (.tensor (found.tensor false)) = true ↔
      found = declared := by
  have unfilling : (found.tensor false).isScalar = false := by
    simpa [Shape.tensor, TensorType.isScalar] using proper
  have same : ((Ty.tensor (found.tensor false)) == .tensor (declared.tensor false)) =
      (found.component == declared.component &&
        ((found.sizes.map fun size => [(.range size : IndexSet Var)]) ==
          declared.sizes.map fun size => [.range size]) && true) := rfl
  obtain ⟨kind, lengths⟩ := declared
  obtain ⟨component, sizes⟩ := found
  rw [Ty.startsAs, same]
  simp only [unfilling, Bool.false_and, Bool.or_false, Bool.and_true, Bool.and_eq_true,
    range_axes_same, beq_iff_eq, Shape.mk.injEq, eq_comm (a := sizes)]

theorem rectangular_proper {literal : Dense Node} {component : Scalar} {sizes : List Nat}
    (rectangular : literal.Rectangular component sizes) : sizes ≠ [] := by
  cases literal with
  | ints node values transposed => simp [(Dense.rectangular_vector rfl rfl).mp rectangular]
  | floats node values transposed => simp [(Dense.rectangular_vector rfl rfl).mp rectangular]
  | nested node rows transposed =>
      obtain ⟨inner, _, rfl, _⟩ := Dense.rectangular_nested.mp rectangular
      exact List.cons_ne_nil _ inner

theorem infer_untransposed {literal : Dense Node} (upright : literal.isTransposed = false) :
    literal.infer = match literal.shape with
      | .error fault => Logged.fail literal.node.span (.mismatch (.literal fault))
      | .ok shape => return .tensor (shape.tensor false) := by
  rw [Dense.infer, upright]
  rfl

theorem literal_declaration_accepted (table : SymbolTable) (x : String)
    (whole name node inner : Node) (ranges : List (Node × Nat)) (component : Scalar)
    {literal : Dense Node} (bounded : literal.Bounded) (upright : literal.isTransposed = false) :
    ((Stmt.variable ⟨whole, ⟨name, x⟩,
        .tensor node (ranges.map fun range => .range range.1 range.2) (.scalar inner component)
          false,
        some (.dense literal)⟩).check table).log.errors = [] ↔
      table.Admits x ∧ literal.Rectangular component (ranges.map Prod.snd) := by
  rw [Stmt.check]
  by_cases free : table.Admits x
  · rw [declaration_unhindered table .variable _ free, ranges_resolve,
      ← shape_rectangular literal bounded]
    simp only [pure_bind, Expr.inferValue, Expr.infer, recorded, infer_untransposed upright,
      bind_assoc]
    cases shaped : literal.shape with
    | error fault => simp [Logged.fail]
    | ok shape =>
        have proper := rectangular_proper ((shape_rectangular literal bounded _ _).mp shaped)
        have judged := startsAs_shape ⟨component, ranges.map Prod.snd⟩ shape proper
        simp [Constancy.checkValue, Constancy.takes, Ty.takes, isSingle, free, Outcome.tensor,
          Outcome.one, judged]
  · rw [declaration_hindered table .variable _ free]
    simp [free, Logged.report]

end Declarations

/--
A literal has a shape if it is rectangular, and then as many scalars as its sizes say. Any other
literal is at fault for its first offence. A tensor variable takes the literals of just its own
component and sizes.
-/
theorem shape_iff_rectangular (literal : Dense Node) (bounded : literal.Bounded) :
    (∀ component sizes,
      literal.shape = .ok ⟨component, sizes⟩ ↔ literal.Rectangular component sizes) ∧
    (∀ component sizes,
      literal.Rectangular component sizes → sizes.prod = literal.scalarCount) ∧
    ((∀ component sizes, ¬ literal.Rectangular component sizes) →
      ∃ fault, literal.offences.head? = some fault ∧ literal.shape = .error fault) ∧
    ∀ (table : SymbolTable) (x : String) (whole name node inner : Node)
        (ranges : List (Node × Nat)) (component : Scalar), literal.isTransposed = false →
      (((Stmt.variable ⟨whole, ⟨name, x⟩,
          .tensor node (ranges.map fun range => .range range.1 range.2)
            (.scalar inner component) false,
          some (.dense literal)⟩).check table).log.errors = [] ↔
        table.Admits x ∧ literal.Rectangular component (ranges.map Prod.snd)) := by
  refine ⟨shape_rectangular literal bounded, fun _ _ => scalarCount_rectangular literal,
    fun ragged => ?_, fun table x whole name node inner ranges component =>
      literal_declaration_accepted table x whole name node inner ranges component bounded⟩
  obtain ⟨shape, _, shaped⟩ := shape_by_offences literal bounded
  cases found : literal.offences with
  | nil =>
      rw [found] at shaped
      exact absurd ((shape_rectangular literal bounded _ _).mp shaped) (ragged _ _)
  | cons fault _ => exact ⟨fault, rfl, by rw [shaped, found]; rfl⟩

theorem grid_accepted :
    let node : Node := ⟨0, .origin⟩
    let grid : Dense Node :=
      .nested node [.ints node [1, 2] false, .ints node [3, 4] false, .ints node [5, 6] false] false
    grid.Bounded ∧ grid.Rectangular .int [3, 2] ∧ [3, 2].prod = grid.scalarCount ∧
      ((Stmt.variable ⟨node, ⟨node, "grid"⟩,
        .tensor node [.range node 3, .range node 2] (.scalar node .int) false,
        some (.dense grid)⟩).check .empty).log.errors = [] := by
  intro node grid
  have bounded : grid.Bounded := ⟨by decide, by decide⟩
  obtain ⟨shaped, counted, _, accepted⟩ := shape_iff_rectangular grid bounded
  have rectangular : grid.Rectangular .int [3, 2] := (shaped .int [3, 2]).mp rfl
  have free : SymbolTable.empty.Admits "grid" := fun _ bound => (nomatch bound)
  exact ⟨bounded, rectangular, counted .int [3, 2] rectangular,
    (accepted .empty "grid" node node node node [(node, 3), (node, 2)] .int rfl).mpr
      ⟨free, rectangular⟩⟩

-- The empty row is found before the second row is held against the first.
example :
    let ragged : Dense Unit :=
      .nested () [.nested () [.ints () [1] false, .ints () [2] false] false,
        .nested () [.ints () [3, 4] false, .nested () [] false] false] false
    ragged.offences = [.empty, .sizes] ∧ ragged.shape = .error .empty :=
  ⟨rfl, rfl⟩

end TensorLang
