import TensorLang.Proofs.SoundReads
import TensorLang.Typing.Expr

set_option autoImplicit false

namespace TensorLang

variable {table : SymbolTable} {limit : ℕ∞}

theorem recorded_yields (node : Node) {check : Logged Outcome}
    (valid : check.Yields (table.rule limit) (Outcome.WellFormed table.elements limit)) :
    (recorded node check).Yields (table.rule limit)
      (Outcome.WellFormed table.elements limit) := by
  refine Logged.yields_bind valid fun outcome known => ?_
  refine Logged.yields_bind (Logged.yields_record fun types same => known types same)
    fun _ _ => ?_
  exact Logged.yields_pure known

theorem name_infer_yields (valid : table.WellFormed limit) (mode : Mode) (name : Name Node) :
    (name.infer table mode).Yields (table.rule limit)
      (Outcome.WellFormed table.elements limit) := by
  rw [name.infer_promised]
  cases found : table.symbol? name.text with
  | none =>
      dsimp only
      split
      · exact Logged.yields_pure Outcome.wellFormed_none
      · exact Logged.yields_fail trivial Outcome.wellFormed_none
  | some symbol =>
      refine Logged.yields_bind (Logged.yields_require trivial) fun _ _ => ?_
      exact Logged.yields_pure (Outcome.wellFormed_ofType fun _ => valid.symbol found)

theorem shape_regular {allowed : Var → Prop} (shape : Shape) (column : Bool)
    (single : column = true → shape.sizes.length = 1) :
    (shape.tensor column).Regular allowed := by
  refine TensorType.regular_of_axes shape.component (shape.sizes.map fun size => [.range size])
    column 1 (fun vector => ?_) Nat.one_pos (fun axis member => ?_) fun axis member => ?_
  · rw [List.length_map]
    exact single vector
  · obtain ⟨size, _, rfl⟩ := List.mem_map.mp member
    rfl
  · obtain ⟨size, _, rfl⟩ := List.mem_map.mp member
    exact fun set indexed => (nomatch List.mem_singleton.mp indexed)

theorem dense_infer_yields (literal : Dense Node) :
    literal.infer.Yields (table.rule limit) (Outcome.WellFormed table.elements limit) := by
  simp only [Dense.infer]
  cases literal.shape with
  | error fault => exact Logged.yields_fail trivial Outcome.wellFormed_none
  | ok shape =>
      dsimp only
      by_cases refused : (literal.isTransposed && shape.sizes.length != 1) = true
      · rw [if_pos refused]
        exact Logged.yields_fail trivial Outcome.wellFormed_none
      · rw [if_neg refused]
        refine Logged.yields_pure (outcome_tensor (shape_regular shape _ fun transposed => ?_))
        simpa [transposed] using refused

theorem infer_bare (table : SymbolTable) (mode : Mode) (expression : Expr Node) :
    (expression.infer table mode).value = (expression.bare.infer table mode).value := by
  match expression with
  | .paren node inner =>
      rw [Expr.infer, Expr.bare]
      exact infer_bare table mode inner
  | .binary .. | .compare .. | .unary .. | .transpose .. | .call .. | .map .. | .read ..
  | .field .. | .int .. | .float .. | .bool .. | .dense _ | .ident _ => rfl

theorem name_infer_value (table : SymbolTable) (mode : Mode) (name : Name Node) :
    (name.infer table mode).value =
      (table.symbol? name.text).bind fun symbol => Outcome.ofType? symbol.var.type? := by
  rw [name.infer_promised]
  cases table.symbol? name.text with
  | none =>
      dsimp only
      split <;> rfl
  | some symbol => rfl

theorem infer_names (table : SymbolTable) (mode : Mode) (base : Expr Node) :
    Operand.Names table base.bare.ident? ⟨base.span, (base.infer table mode).value⟩ := by
  intro name type named typed
  rw [infer_bare] at typed
  cases bare : base.bare with
  | ident found =>
      rw [bare] at named typed
      cases Option.some.inj named
      change (name.infer table mode).value = _ at typed
      rw [name_infer_value] at typed
      obtain ⟨symbol, known, typed⟩ := Option.bind_eq_some_iff.mp typed
      obtain ⟨_, typed, same⟩ := Option.map_eq_some_iff.mp typed
      cases same
      exact ⟨symbol, known, typed⟩
  | _ => rw [bare] at named; exact (nomatch named)

mutual
theorem infer_yields (valid : table.WellFormed limit) (mode : Mode) (expression : Expr Node) :
    (expression.infer table mode).Yields (table.rule limit)
      (Outcome.WellFormed table.elements limit) := by
  cases expression with
  | binary node operator left right =>
      rw [Expr.infer]
      apply recorded_yields node
      refine Logged.yields_bind (infer_yields valid .read left) fun leftTypes leftValid => ?_
      refine Logged.yields_bind (infer_yields valid .read right) fun rightTypes rightValid => ?_
      exact binary_yields operator node.span leftValid rightValid
  | compare node operands operators =>
      rw [Expr.infer]
      exact recorded_yields node (comparison_yields _ (visits_yields valid operands))
  | unary node operator operand =>
      rw [Expr.infer]
      apply recorded_yields node
      refine Logged.yields_bind (infer_yields valid .read operand) fun types known => ?_
      exact unary_yields operator known
  | transpose node operand =>
      rw [Expr.infer]
      apply recorded_yields node
      refine Logged.yields_bind (infer_yields valid .read operand) fun types known => ?_
      exact transpose_yields known
  | call node routine arguments =>
      rw [Expr.infer]
      exact recorded_yields node
        (call_yields valid node.span routine (visits_yields valid arguments))
  | map node routine partials target =>
      rw [Expr.infer]
      exact recorded_yields node
        (map_yields valid node.span routine target (visits_yields valid partials))
  | read node base indices =>
      rw [Expr.infer]
      apply recorded_yields node
      refine Logged.yields_bind (infer_yields valid mode.ofBase base) fun types known => ?_
      exact read_yields node.span known (positions_yield valid indices)
  | field node base name =>
      rw [Expr.infer]
      apply recorded_yields node
      have inferred := infer_yields valid mode.ofBase base
      apply Logged.yields_bind_value inferred
      exact field_yields valid node.span name (infer_names table mode.ofBase base) inferred.value
  | paren node inner =>
      rw [Expr.infer]
      exact recorded_yields node (infer_yields valid mode inner)
  | int node value =>
      exact recorded_yields node
        (Logged.yields_pure (Outcome.wellFormed_one (Ty.wellFormed_ofScalar .int)))
  | float node value =>
      exact recorded_yields node
        (Logged.yields_pure (Outcome.wellFormed_one (Ty.wellFormed_ofScalar .float)))
  | bool node value =>
      exact recorded_yields node
        (Logged.yields_pure (Outcome.wellFormed_one (Ty.wellFormed_ofScalar .bool)))
  | dense literal => exact recorded_yields literal.node (dense_infer_yields literal)
  | ident name => exact recorded_yields name.node (name_infer_yields valid mode name)
theorem visits_yields (valid : table.WellFormed limit) (operands : List (Expr Node)) :
    ∀ visit ∈ visits table operands,
      visit.check.Yields (table.rule limit) (Outcome.WellFormed table.elements limit) := by
  cases operands with
  | nil => exact fun _ member => (nomatch member)
  | cons operand rest =>
      intro visit member
      rcases List.mem_cons.mp member with same | later
      · rw [same]
        exact infer_yields valid .read operand
      · exact visits_yields valid rest visit later
theorem positions_yield (valid : table.WellFormed limit) (indices : List (Index Node)) :
    ∀ visit, Position.at visit ∈ positions table indices →
      visit.check.Yields (table.rule limit) (Outcome.WellFormed table.elements limit) := by
  cases indices with
  | nil => exact fun _ member => (nomatch member)
  | cons index rest =>
      intro visit member
      cases index with
      | slice node =>
          rcases List.mem_cons.mp member with same | later
          · exact (nomatch same)
          · exact positions_yield valid rest visit later
      | «at» index =>
          rcases List.mem_cons.mp member with same | later
          · rw [Position.at.inj same]
            exact infer_yields valid .read index
          · exact positions_yield valid rest visit later
end

end TensorLang
