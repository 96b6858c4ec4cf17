import TensorLang.Proofs.RecordedIds
import TensorLang.Proofs.RulesGive
import TensorLang.Proofs.SoundExprs

set_option autoImplicit false

namespace TensorLang

open Logged

structure Logged.Complete (ids : List Nat) (check : Logged Outcome) : Prop where
  known : check.value.isSome = true
  ids : check.log.ids = ids

def Logged.Completes (ids : List Nat) (check : Logged Outcome) : Prop :=
  check.log.errors = [] → check.Complete ids

theorem recorded_clean {node : Node} {check : Logged Outcome}
    (clean : (recorded node check).log.errors = []) : check.log.errors = [] :=
  (bind_clean.mp clean).1

theorem recorded_completes (node : Node) {check : Logged Outcome} {ids : List Nat}
    (inner : check.Completes ids) : (recorded node check).Completes (ids ++ [node.id]) := by
  intro clean
  obtain ⟨known, same⟩ := inner (recorded_clean clean)
  refine ⟨known, ?_⟩
  obtain ⟨types, typed⟩ := Option.isSome_iff_exists.mp known
  rw [recorded_ids, same, typed]
  rfl

theorem operand_completes {ids others : List Nat} {operand : Logged Outcome}
    {rule : Outcome → Logged Outcome} (start : operand.Completes ids)
    (rest : ∀ types, operand.value = some types → (rule (some types)).Completes others) :
    (operand >>= rule).Completes (ids ++ others) := by
  intro clean
  obtain ⟨first, later⟩ := bind_clean.mp clean
  obtain ⟨known, same⟩ := start first
  obtain ⟨types, typed⟩ := Option.isSome_iff_exists.mp known
  rw [typed] at later
  obtain ⟨given, recorded⟩ := rest types typed later
  refine ⟨?_, ?_⟩
  · rw [value_bind, typed]
    exact given
  · rw [log_bind, Log.ids_append, same, typed, recorded]

theorem silent_completes {rule : Logged Outcome} (gives : rule.Gives)
    (silent : rule.log.ids = []) : rule.Completes [] :=
  fun clean => ⟨gives clean, silent⟩

theorem name_completes {table : SymbolTable} (settled : table.Settled) {mode : Mode}
    (used : mode ≠ .define) (name : Name Node) : (name.infer table mode).Completes [] := by
  refine silent_completes ?_ (name_infer_ids table mode name)
  rw [name.infer_promised]
  cases found : table.symbol? name.text with
  | none =>
      dsimp only
      rw [if_neg used]
      exact gives_fail _ _
  | some symbol =>
      obtain ⟨type, typed⟩ := settled.typed found
      dsimp only
      rw [typed]
      exact gives_bind fun _ => gives_pure _

theorem dense_completes (literal : Dense Node) : literal.infer.Completes [] := by
  refine silent_completes ?_ (Log.View.ids.part_dense literal)
  simp only [Dense.infer]
  cases literal.shape with
  | error fault => exact gives_fail _ _
  | ok shape =>
      dsimp only
      split
      · exact gives_fail _ _
      · exact gives_pure _

theorem read_used : Mode.read ≠ .define := by decide

theorem base_used (mode : Mode) : mode.ofBase ≠ .define := by
  cases mode <;> decide

variable {table : SymbolTable} {limit : ℕ∞}

mutual
theorem infer_completes (valid : table.WellFormed limit) (settled : table.Settled) {mode : Mode}
    (used : mode ≠ .define) (expression : Expr Node) :
    (expression.infer table mode).Completes expression.ids := by
  cases expression with
  | binary node operator left right =>
      rw [Expr.infer, Expr.ids]
      apply recorded_completes node
      refine operand_completes (infer_completes valid settled read_used left) fun leftTypes _ => ?_
      rw [← List.append_nil right.ids]
      have inferred := infer_completes valid settled read_used right
      refine operand_completes inferred fun rightTypes _ => ?_
      exact silent_completes (binary_gives _ _ _ _ _ _) (Log.View.ids.part_binary ..)
  | compare node operands operators =>
      rw [Expr.infer, Expr.ids]
      refine recorded_completes node fun clean => ⟨rfl, ?_⟩
      rw [ids_of_view (Log.View.ids.part_comparison _)]
      exact visits_complete valid settled operands (compare_all_clean (bind_clean.mp clean).1)
  | unary node operator operand =>
      rw [Expr.infer, Expr.ids, ← List.append_nil operand.ids]
      apply recorded_completes node
      refine operand_completes (infer_completes valid settled read_used operand) fun types _ => ?_
      exact silent_completes (unary_gives _ _ _) (Log.View.ids.part_unary ..)
  | transpose node operand =>
      rw [Expr.infer, Expr.ids, ← List.append_nil operand.ids]
      apply recorded_completes node
      refine operand_completes (infer_completes valid settled read_used operand) fun types _ => ?_
      exact silent_completes (transpose_gives _ _) (Log.View.ids.part_transpose ..)
  | call node routine arguments =>
      rw [Expr.infer, Expr.ids]
      refine recorded_completes node fun clean => ⟨call_gives table node.span routine _ clean, ?_⟩
      rw [ids_of_view (Log.View.ids.part_call ..)]
      exact visits_complete valid settled arguments (call_clean clean)
  | map node routine partials target =>
      rw [Expr.infer, Expr.ids]
      refine recorded_completes node fun clean =>
        ⟨map_gives table node.span routine _ target clean, ?_⟩
      rw [ids_of_view (Log.View.ids.part_map ..)]
      exact visits_complete valid settled partials (map_clean clean)
  | read node base indices =>
      rw [Expr.infer, Expr.ids]
      apply recorded_completes node
      have inferred := infer_yields valid mode.ofBase base
      have complete := infer_completes valid settled (base_used mode) base
      refine operand_completes complete fun types typed clean => ?_
      have known : Outcome.WellFormed table.elements limit (some types) := typed ▸ inferred.value
      have visited := read_visits node.span base.span known (positions table indices) clean
      refine ⟨read_gives _ _ _ _ clean, ?_⟩
      rw [ids_of_positions visited.entries]
      exact positions_complete valid settled indices visited.clean
  | field node base name =>
      rw [Expr.infer, Expr.ids, ← List.append_nil base.ids]
      apply recorded_completes node
      have inferred := infer_yields valid mode.ofBase base
      have names := infer_names table mode.ofBase base
      have complete := infer_completes valid settled (base_used mode) base
      refine operand_completes complete fun types typed => ?_
      have known : Outcome.WellFormed table.elements limit (some types) := typed ▸ inferred.value
      rw [typed] at names
      exact silent_completes (field_gives node.span base.span names known name) (Log.View.ids.part_field ..)
  | paren node inner =>
      rw [Expr.infer, Expr.ids]
      exact recorded_completes node (infer_completes valid settled used inner)
  | int node value => exact recorded_completes node fun _ => ⟨rfl, rfl⟩
  | float node value => exact recorded_completes node fun _ => ⟨rfl, rfl⟩
  | bool node value => exact recorded_completes node fun _ => ⟨rfl, rfl⟩
  | dense literal => exact recorded_completes literal.node (dense_completes literal)
  | ident name => exact recorded_completes name.node (name_completes settled used name)
theorem visits_complete (valid : table.WellFormed limit) (settled : table.Settled)
    (operands : List (Expr Node))
    (clean : ∀ visit ∈ visits table operands, visit.check.log.errors = []) :
    ((visits table operands).flatMap (·.check.log.ids)) = exprIds operands := by
  cases operands with
  | nil => rfl
  | cons operand rest =>
      rw [visits, List.forall_mem_cons] at clean
      rw [visits, exprIds, List.flatMap_cons, visits_complete valid settled rest clean.2]
      rw [(infer_completes valid settled read_used operand clean.1).ids]
theorem positions_complete (valid : table.WellFormed limit) (settled : table.Settled)
    (indices : List (Index Node))
    (clean : ∀ position ∈ positions table indices, position.Clean) :
    ((positions table indices).flatMap Position.ids) = indexIds indices := by
  cases indices with
  | nil => rfl
  | cons index rest =>
      cases index with
      | slice node =>
          rw [positions, List.forall_mem_cons] at clean
          rw [positions, indexIds, List.flatMap_cons]
          exact positions_complete valid settled rest clean.2
      | «at» index =>
          rw [positions, List.forall_mem_cons] at clean
          rw [positions, indexIds, List.flatMap_cons, positions_complete valid settled rest clean.2,
            Position.ids, (infer_completes valid settled read_used index clean.1).ids]
end

end TensorLang
