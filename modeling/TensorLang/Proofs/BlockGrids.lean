import Mathlib.Logic.Function.Iterate
import TensorLang.Proofs.Blocks
import TensorLang.Proofs.SoundAnnotations

set_option autoImplicit false

namespace TensorLang

namespace TensorType

variable {σ : Type}

-- The outermost level comes first, in the list as in every axis.
def grid (component : Scalar) (levels : List (List (IndexSet σ))) : TensorType σ :=
  ⟨component, (List.range (levels.headD []).length).map fun index =>
    levels.filterMap (·[index]?), false⟩

section

variable (component : Scalar) {level leading : List (IndexSet σ)}
  {rest : List (List (IndexSet σ))}

theorem grid_order : (grid component (level :: rest)).order = level.length := by
  simp [grid, order]

theorem grid_columns {levels : List (List (IndexSet σ))} :
    (grid component levels).axes = (List.range (grid component levels).order).map fun index =>
      levels.filterMap (·[index]?) := by
  simp [grid, order]

theorem grid_axis (index : Nat) :
    (grid component (leading :: rest)).axes[index]? =
      leading[index]?.map (· :: rest.filterMap (·[index]?)) := by
  rw [grid, List.getElem?_map, List.headD_cons]
  by_cases inside : index < leading.length
  · rw [List.getElem?_range inside, List.getElem?_eq_getElem inside, Option.map_some,
      List.filterMap_cons, List.getElem?_eq_getElem inside]
    rfl
  · rw [List.getElem?_eq_none (by simpa using inside),
      List.getElem?_eq_none (Nat.le_of_not_lt inside)]
    rfl

theorem axes_of_scalars : leading.map ([·]) = (grid component [leading]).axes := by
  refine List.ext_getElem? fun index => ?_
  rw [grid_axis, List.getElem?_map]
  rfl

theorem axes_of_blocks (lengths : level.length = leading.length) :
    List.zipWith List.cons leading (grid component (level :: rest)).axes =
      (grid component (leading :: level :: rest)).axes := by
  refine List.ext_getElem? fun index => ?_
  rw [grid_axis, List.getElem?_zipWith, grid_axis]
  by_cases inside : index < leading.length
  · have within : index < level.length := lengths ▸ inside
    rw [List.getElem?_eq_getElem inside, List.getElem?_eq_getElem within, List.filterMap_cons,
      List.getElem?_eq_getElem within]
    rfl
  · rw [List.getElem?_eq_none (Nat.le_of_not_lt inside)]
    rfl

theorem grid_proper (filled : level ≠ []) :
    (grid component (level :: rest)).isScalar = false := by
  rw [← Bool.not_eq_true, isScalar, List.isEmpty_iff, ← List.length_eq_zero_iff]
  exact fun flat => filled (List.length_eq_zero_iff.mp ((grid_order component).symm.trans flat))

theorem ofBlocks_grid (proper : leading ≠ [])
    (lengths : ∀ level ∈ rest, level.length = leading.length) :
    ofBlocks? leading (grid component rest) = some (grid component (leading :: rest)) := by
  rw [ofBlocks?, if_neg (by simpa using proper)]
  cases rest with
  | nil =>
      have flat : (grid component [] : TensorType σ).isScalar = true := rfl
      rw [if_pos flat, axes_of_scalars component]
      rfl
  | cons level others =>
      have length := lengths level (by simp)
      have filled : level ≠ [] := by
        rw [← List.length_pos_iff, length]
        exact List.length_pos_iff.mpr proper
      rw [grid_proper component filled, if_neg Bool.false_ne_true, if_pos ((grid_order component).trans length),
        axes_of_blocks component length]
      rfl

theorem ofBlocks_uneven (proper : leading ≠ []) (filled : level ≠ [])
    (differ : level.length ≠ leading.length) :
    ofBlocks? leading (grid component (level :: rest)) = none := by
  rw [ofBlocks?, if_neg (by simpa using proper), grid_proper component filled, if_neg Bool.false_ne_true]
  exact if_neg fun same => differ ((grid_order component).symm.trans same)

variable {count : Nat} {levels : List (List (IndexSet σ))}

theorem ofBlocks_even (positive : 0 < count)
    (lengths : ∀ level ∈ leading :: rest, level.length = count) :
    ofBlocks? leading (grid component rest) = some (grid component (leading :: rest)) := by
  have length := lengths leading (by simp)
  refine ofBlocks_grid component ?_ fun level member => ?_
  · rw [← List.length_pos_iff, length]
    exact positive
  · rw [length]
    exact lengths level (by simp [member])

theorem grid_order_even (lengths : ∀ level ∈ levels, level.length = count)
    (member : level ∈ levels) : (grid component levels).order = count := by
  cases levels with
  | nil => exact nomatch member
  | cons leading rest => exact (grid_order component).trans (lengths leading (by simp))

theorem grid_regular (positive : 0 < count) (lengths : ∀ level ∈ levels, level.length = count) :
    (grid component levels).Regular fun _ => True := by
  induction levels with
  | nil => exact scalar_regular component
  | cons leading rest ih =>
      have inner := ih fun level member => lengths level (by simp [member])
      exact ofBlocks_regular (fun _ _ => trivial) inner (ofBlocks_even component positive lengths)

theorem outer_grid (positive : 0 < count)
    (lengths : ∀ level ∈ leading :: rest, level.length = count) :
    (grid component (leading :: rest)).outer = leading := by
  refine outer_ofBlocks ?_ (ofBlocks_even component positive lengths)
  rw [← List.length_pos_iff, lengths leading (by simp)]
  exact positive

theorem block_grid (positive : 0 < count)
    (lengths : ∀ level ∈ leading :: rest, level.length = count) :
    (grid component (leading :: rest)).block = grid component rest := by
  have regular := grid_regular component positive fun level member =>
    lengths level (List.mem_cons_of_mem leading member)
  have proper : leading ≠ [] := by
    rw [← List.length_pos_iff, lengths leading (by simp)]
    exact positive
  refine (block_ofBlocks regular proper (ofBlocks_even component positive lengths) false).trans ?_
  exact ite_self _

theorem blocks_grid (positive : 0 < count) (lengths : ∀ level ∈ levels, level.length = count)
    (depth : Nat) : block^[depth] (grid component levels) = grid component (levels.drop depth) := by
  induction depth generalizing levels with
  | zero => rfl
  | succ depth ih =>
      rw [Function.iterate_succ_apply]
      cases levels with
      | nil =>
          have scalars := ih lengths
          rw [List.drop_nil] at scalars ⊢
          exact scalars
      | cons leading rest =>
          rw [block_grid component positive lengths, List.drop_succ_cons]
          exact ih fun level member => lengths level (by simp [member])

end

end TensorType

-- One annotation for every level, the outermost first, around that of a scalar.
def TypeExpr.nested (node : Node) (component : Scalar) :
    List (Node × List (Domain Node)) → TypeExpr Node
  | [] => .scalar node component
  | (outer, domains) :: rest => .tensor outer domains (nested node component rest) false

section

variable (table : SymbolTable)

def Domain.Known (domain : Domain Node) : Prop := (domain.resolve table).value.isSome = true

def indexSets (domains : List (Domain Node)) : List (IndexSet Var) :=
  domains.filterMap fun domain => (domain.resolve table).value

def properLevels (levels : List (Node × List (Domain Node))) : List (List (IndexSet Var)) :=
  (levels.map fun level => indexSets table level.2).filter (!·.isEmpty)

end

variable {table : SymbolTable}

theorem known_domain_silent {domain : Domain Node} (known : domain.Known table) :
    (domain.resolve table).log.errors = [] := by
  cases domain with
  | range node size => rfl
  | dynamic node => rfl
  | set name =>
      rw [Domain.Known, Domain.resolve, Name.resolveIndexSet, name.resolve_set_promised] at known
      rw [Domain.resolve, Name.resolveIndexSet, name.resolve_set_promised]
      cases bound : table.symbol? name.text with
      | none =>
          rw [bound] at known
          exact nomatch known
      | some symbol =>
          rw [bound] at known
          dsimp only at known ⊢
          rcases typed : symbol.var.type? with _ | type
          · rfl
          · rw [typed] at known
            cases type with
            | set member endpoints => rfl
            | tensor | tuple | element => exact nomatch known

theorem known_domains {domains : List (Domain Node)}
    (known : ∀ domain ∈ domains, domain.Known table) :
    (domains.map fun domain => (domain.resolve table).value) = (indexSets table domains).map some ∧
      (domains.flatMap fun domain => (domain.resolve table).log.errors) = [] := by
  constructor
  · rw [indexSets, List.map_filterMap_some_eq_filter_map_isSome, List.filter_eq_self.mpr]
    intro index? member
    obtain ⟨domain, domainMember, rfl⟩ := List.mem_map.mp member
    exact known domain domainMember
  · rw [List.flatMap_eq_nil_iff]
    exact fun domain member => known_domain_silent (known domain member)

section

variable {node : Node} {domains : List (Domain Node)} {inner : TypeExpr Node}
  {block : TensorType Var}

theorem level_resolves (known : ∀ domain ∈ domains, domain.Known table)
    (found : (inner.resolve table).value = some (.tensor block)) {whole : TensorType Var}
    (built : TensorType.ofBlocks? (indexSets table domains) block = some whole) :
    let check := (TypeExpr.tensor node domains inner false).resolve table
    check.value = some (.tensor whole) ∧ check.log.errors = (inner.resolve table).log.errors := by
  obtain ⟨sets, silent⟩ := known_domains known
  simp [TypeExpr.resolve, found, sets, silent, allPresent_some, Ty.tensorOf, built,
    TensorType.oriented]

theorem level_rejected (known : ∀ domain ∈ domains, domain.Known table)
    (found : (inner.resolve table).value = some (.tensor block))
    (built : TensorType.ofBlocks? (indexSets table domains) block = none) :
    let check := (TypeExpr.tensor node domains inner false).resolve table
    check.value = none ∧
      check.log.errors = (inner.resolve table).log.errors ++ [⟨node.span, .mismatch .blockOrder⟩] := by
  obtain ⟨sets, silent⟩ := known_domains known
  simp [TypeExpr.resolve, found, sets, silent, allPresent_some, Ty.tensorOf, built, Logged.fail]

theorem level_absent (known : ∀ domain ∈ domains, domain.Known table)
    (absent : (inner.resolve table).value = none) :
    let check := (TypeExpr.tensor node domains inner false).resolve table
    check.value = none ∧ check.log.errors = (inner.resolve table).log.errors := by
  obtain ⟨_, silent⟩ := known_domains known
  simp [TypeExpr.resolve, absent, silent]

end

theorem properLevels_filled {levels : List (Node × List (Domain Node))} :
    ∀ level ∈ properLevels table levels, level ≠ [] := by
  intro level member
  simpa using (List.mem_filter.mp member).2

theorem properLevels_skip {level : Node × List (Domain Node)}
    {rest : List (Node × List (Domain Node))} (empty : indexSets table level.2 = []) :
    properLevels table (level :: rest) = properLevels table rest := by
  simp [properLevels, empty]

theorem properLevels_cons {level : Node × List (Domain Node)}
    {rest : List (Node × List (Domain Node))} (proper : indexSets table level.2 ≠ []) :
    properLevels table (level :: rest) = indexSets table level.2 :: properLevels table rest := by
  simp [properLevels, proper]

section

variable {node : Node} {component : Scalar} {levels : List (Node × List (Domain Node))}

theorem even_resolves (known : ∀ level ∈ levels, ∀ domain ∈ level.2, domain.Known table)
    {count : Nat} (lengths : ∀ level ∈ properLevels table levels, level.length = count) :
    let check := (TypeExpr.nested node component levels).resolve table
    check.value = some (.tensor (.grid component (properLevels table levels))) ∧
      check.log.errors = [] := by
  induction levels with
  | nil => exact ⟨rfl, rfl⟩
  | cons level rest ih =>
      have domains := known level (by simp)
      have inside := fun other member => known other (List.mem_cons_of_mem level member)
      by_cases empty : indexSets table level.2 = []
      · rw [properLevels_skip empty] at lengths ⊢
        obtain ⟨found, silent⟩ := ih inside lengths
        have built : TensorType.ofBlocks? (indexSets table level.2)
            (.grid component (properLevels table rest)) =
              some (.grid component (properLevels table rest)) := by rw [empty]; rfl
        exact silent ▸ level_resolves domains found built
      · rw [properLevels_cons empty] at lengths ⊢
        have shorter := fun other member => lengths other (List.mem_cons_of_mem _ member)
        obtain ⟨found, silent⟩ := ih inside shorter
        have positive : 0 < count := by
          rw [← lengths _ (List.mem_cons_self ..)]
          exact List.length_pos_iff.mpr empty
        have built := TensorType.ofBlocks_even component positive lengths
        exact silent ▸ level_resolves domains found built

theorem uneven_rejected (known : ∀ level ∈ levels, ∀ domain ∈ level.2, domain.Known table)
    (uneven : ¬ ∃ count, ∀ level ∈ properLevels table levels, level.length = count) :
    let check := (TypeExpr.nested node component levels).resolve table
    check.value = none ∧
      ∃ level ∈ levels, check.log.errors = [⟨level.1.span, .mismatch .blockOrder⟩] := by
  induction levels with
  | nil => exact absurd ⟨0, fun _ member => (nomatch member)⟩ uneven
  | cons level rest ih =>
      have domains := known level (by simp)
      have inside := fun other member => known other (List.mem_cons_of_mem level member)
      by_cases even : ∃ count, ∀ level ∈ properLevels table rest, level.length = count
      · obtain ⟨count, lengths⟩ := even
        obtain ⟨found, silent⟩ := even_resolves inside lengths
        have proper : indexSets table level.2 ≠ [] := by
          intro empty
          rw [properLevels_skip empty] at uneven
          exact uneven ⟨count, lengths⟩
        rw [properLevels_cons proper] at uneven
        have built : TensorType.ofBlocks? (indexSets table level.2)
            (.grid component (properLevels table rest)) = none := by
          cases rows : properLevels table rest with
          | nil => exact absurd ⟨_, by rw [rows]; exact List.forall_mem_singleton.mpr rfl⟩ uneven
          | cons first others =>
              have member : first ∈ properLevels table rest := by simp [rows]
              refine TensorType.ofBlocks_uneven component proper
                (properLevels_filled first member) fun same => uneven ⟨count, ?_⟩
              exact List.forall_mem_cons.mpr ⟨same.symm.trans (lengths first member), lengths⟩
        obtain ⟨value, errors⟩ := level_rejected domains found built
        exact ⟨value, level, List.mem_cons_self .., errors.trans (by rw [silent]; rfl)⟩
      · obtain ⟨absent, other, member, reported⟩ := ih inside even
        obtain ⟨value, errors⟩ := level_absent domains absent
        exact ⟨value, other, List.mem_cons_of_mem level member, errors.trans reported⟩

theorem even_positive {count : Nat}
    (lengths : ∀ level ∈ properLevels table levels, level.length = count) :
    ∃ count, 0 < count ∧ ∀ level ∈ properLevels table levels, level.length = count := by
  cases rows : properLevels table levels with
  | nil => exact ⟨1, Nat.one_pos, fun _ member => (nomatch member)⟩
  | cons first others =>
      have member : first ∈ properLevels table levels := by simp [rows]
      refine ⟨count, ?_, fun level inside => lengths level (rows ▸ inside)⟩
      rw [← lengths first member]
      exact List.length_pos_iff.mpr (properLevels_filled first member)

end

/--
Annotations nested in annotations form a grid. If all their index sets are known, they stand for a
type just if the levels that have index sets have equally many, and otherwise one level is reported
and nothing else. The axes of the type are the columns of the grid, and its blocks are the grids
without the outermost levels, down to the scalar.
-/
theorem nested_annotations_grid {table : SymbolTable} (node : Node) (component : Scalar)
    {levels : List (Node × List (Domain Node))}
    (known : ∀ level ∈ levels, ∀ domain ∈ level.2, domain.Known table) :
    let rows := properLevels table levels
    let check := (TypeExpr.nested node component levels).resolve table
    (check.value.isSome = true ↔ ∃ count, ∀ row ∈ rows, row.length = count) ∧
      (check.value = none →
        ∃ level ∈ levels, check.log.errors = [⟨level.1.span, .mismatch .blockOrder⟩]) ∧
      ∀ type, check.value = some type →
        check.log.errors = [] ∧ ∃ whole : TensorType Var,
          type = .tensor whole ∧ whole.component = component ∧ whole.column = false ∧
          (∀ row ∈ rows, whole.order = row.length) ∧
          (whole.axes = (List.range whole.order).map fun index => rows.filterMap (·[index]?)) ∧
          (∀ depth, TensorType.block^[depth] whole = .grid component (rows.drop depth)) ∧
          (∀ depth row, rows[depth]? = some row → (TensorType.block^[depth] whole).outer = row) ∧
          TensorType.block^[rows.length] whole = .scalar component := by
  intro rows check
  by_cases even : ∃ count, ∀ row ∈ rows, row.length = count
  · obtain ⟨_, lengths⟩ := even
    obtain ⟨value, errors⟩ := even_resolves known lengths
    obtain ⟨count, positive, lengths⟩ := even_positive lengths
    change check.value = _ at value
    have blocks := TensorType.blocks_grid component positive lengths
    refine ⟨⟨fun _ => ⟨count, lengths⟩, fun _ => by rw [value]; rfl⟩,
      fun absent => (nomatch value.symm.trans absent), fun type found => ⟨errors, ?_⟩⟩
    rw [value] at found
    refine ⟨.grid component rows, (Option.some.inj found).symm, rfl, rfl, ?_, ?_, blocks, ?_, ?_⟩
    · intro row member
      rw [lengths row member]
      exact TensorType.grid_order_even component lengths member
    · exact TensorType.grid_columns component
    · intro depth row found
      obtain ⟨inside, rfl⟩ := List.getElem?_eq_some_iff.mp found
      rw [blocks, List.drop_eq_getElem_cons inside]
      refine TensorType.outer_grid component positive fun row member => lengths row ?_
      rw [← List.drop_eq_getElem_cons inside] at member
      exact List.mem_of_mem_drop member
    · rw [blocks, List.drop_length]
      rfl
  · obtain ⟨absent, reported⟩ := uneven_rejected known even
    change check.value = none at absent
    refine ⟨⟨fun some => ?_, fun known => absurd known even⟩, fun _ => reported,
      fun type found => nomatch absent.symm.trans found⟩
    rw [absent] at some
    exact nomatch some

theorem matrix_of_matrices_grid :
    let node : Node := ⟨0, .origin⟩
    let levels : List (Node × List (Domain Node)) :=
      [(node, [.range node 4, .dynamic node]), (node, []), (node, [.range node 3, .range node 2])]
    let check := (TypeExpr.nested node .float levels).resolve .empty
    let whole : TensorType Var := ⟨.float, [[.range 4, .range 3], [.dynamic, .range 2]], false⟩
    (∀ level ∈ levels, ∀ domain ∈ level.2, domain.Known .empty) ∧
      check.value = some (.tensor whole) ∧ check.log.errors = [] ∧
      whole.block = ⟨.float, [[.range 3], [.range 2]], false⟩ ∧
      whole.block.block = .scalar .float := by
  intro node levels check whole
  have known : ∀ level ∈ levels, ∀ domain ∈ level.2, domain.Known .empty := by
    simp [levels, Domain.Known, Domain.resolve]
  obtain ⟨_, _, parts⟩ := nested_annotations_grid node .float known
  have value : check.value = some (.tensor whole) := rfl
  obtain ⟨silent, found, same, _, _, _, _, blocks, _, last⟩ := parts _ value
  cases same
  exact ⟨known, value, silent, blocks 1, last⟩

end TensorLang
