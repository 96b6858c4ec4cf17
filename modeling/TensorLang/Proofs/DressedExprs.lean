import TensorLang.Proofs.DressedRules

set_option autoImplicit false

namespace TensorLang

open Logged

variable {first second : SymbolTable} {layout : List Wrapping}

namespace Logged

theorem log_forM_record (ids : List Nat) (types : List Ty) :
    (ids.forM fun id => record id (some types)).log = ⟨[], ids.map (⟨·, types⟩), []⟩ := by
  induction ids with
  | nil => rfl
  | cons id rest ih =>
      change (record id (some types)).log ++ (rest.forM fun id => record id (some types)).log = _
      rw [ih]
      rfl

theorem log_forM_unrecorded (ids : List Nat) :
    (ids.forM fun id => record id none).log = .empty := by
  induction ids with
  | nil => rfl
  | cons id rest ih =>
      change (record id none).log ++ (rest.forM fun id => record id none).log = _
      rw [ih]
      rfl

theorem record_twins (id : Nat) (parens : List Nat) (outcome : Outcome) :
    (do
      record id outcome
      return outcome : Logged Outcome).Twins Eq [⟨id, parens⟩]
    (do
      record id outcome
      parens.forM fun id => record id outcome
      return outcome : Logged Outcome) := by
  cases outcome with
  | none =>
      refine ⟨rfl, ?_, ?_, ?_⟩ <;> simp only [log_bind, log_forM_unrecorded]
      · rfl
      · rfl
      · exact .skip _ .nil
  | some types =>
      refine ⟨rfl, ?_, ?_, ?_⟩ <;> simp only [log_bind, log_forM_record]
      · rfl
      · rfl
      · have kept := Dressed.keep ⟨id, parens⟩ types .nil
        simpa [Wrapping.ids] using kept

end Logged

namespace Expr

theorem enclosed_node_span (expression : Expr Node) (parens : List Nat) :
    (expression.enclosed parens).span = expression.span := by
  simp only [enclosed]
  induction parens generalizing expression with
  | nil => rfl
  | cons id rest ih =>
      rw [List.foldl_cons, ih]
      rfl

theorem enclosed_bare (expression : Expr Node) (parens : List Nat) :
    (expression.enclosed parens).bare = expression.bare := by
  simp only [enclosed]
  induction parens generalizing expression with
  | nil => rfl
  | cons id rest ih =>
      rw [List.foldl_cons, ih]
      rfl

theorem enclosed_infer (table : SymbolTable) (mode : Mode) (expression : Expr Node)
    (parens : List Nat) :
    (expression.enclosed parens).infer table mode = (do
      let outcome ← expression.infer table mode
      parens.forM fun id => Logged.record id outcome
      return outcome) := by
  induction parens generalizing expression with
  | nil => exact (bind_pure _).symm
  | cons id rest ih =>
      change ((paren ⟨id, expression.span⟩ expression).enclosed rest).infer table mode = _
      rw [ih]
      change (recorded ⟨id, expression.span⟩ (expression.infer table mode) >>= _) = _
      change _ = (do
        let outcome ← expression.infer table mode
        (do
          Logged.record id outcome
          rest.forM fun id => Logged.record id outcome)
        return outcome)
      simp only [recorded, bind_assoc, pure_bind]

theorem wraps_parts_node {expression other : Expr Node}
    (inside : Expr.WrapsParts layout expression other) : other.node = expression.node := by
  cases inside <;> rfl

theorem wraps_span {expression other : Expr Node} (wraps : Expr.Wraps layout expression other) :
    other.span = expression.span := by
  obtain ⟨inside, parens⟩ := wraps
  rw [enclosed_node_span, span, wraps_parts_node inside]
  rfl

end Expr

theorem wraps_bare {layout : List Wrapping} {expression other : Expr Node}
    (wraps : Expr.Wraps layout expression other) :
    other.bare.ident? = expression.bare.ident? := by
  match expression with
  | .paren node inner =>
      obtain ⟨inside, parens⟩ := wraps
      rw [Expr.enclosed_bare]
      cases inside with
      | paren _ part =>
          have known := wraps_bare part
          exact known
  | .ident name =>
      obtain ⟨inside, parens⟩ := wraps
      rw [Expr.enclosed_bare]
      cases inside
      rfl
  | .binary .. | .compare .. | .unary .. | .transpose .. | .call .. | .map .. | .read .. | .field ..
  | .int .. | .float .. | .bool .. | .dense _ =>
      obtain ⟨inside, parens⟩ := wraps
      rw [Expr.enclosed_bare]
      cases inside
      rfl

theorem recorded_twins {table : SymbolTable} {mode : Mode} {node : Node}
    {check copy : Logged Outcome} {other : Expr Node}
    (inferred : other.infer table mode = recorded node copy) (twins : check.Twins Eq layout copy)
    (parens : List Nat) :
    (recorded node check).Twins Eq (layout ++ [⟨node.id, parens⟩])
      ((other.enclosed parens).infer table mode) := by
  rw [other.enclosed_infer, inferred]
  simp only [recorded, bind_assoc, pure_bind]
  refine twins_bind twins fun outcome copied same => ?_
  rw [same]
  exact record_twins node.id parens copied

theorem name_infer_same (wraps : first.Wraps second) (mode : Mode) (name : Name Node) :
    name.infer second mode = name.infer first mode := by
  rw [name.infer_promised, name.infer_promised, wraps.symbol?]

theorem field_same (wraps : first.Wraps second) (span : Span) (base : Operand)
    (set? : Option (Name Node)) (name : Name Node) :
    checkField second span base set? name = checkField first span base set? name := by
  obtain ⟨routines, rfl, related⟩ := wraps
  rfl

mutual
theorem infer_twins (wraps : first.Wraps second) (mode : Mode) (expression : Expr Node)
    {layout : List Wrapping} {other : Expr Node} (wrapped : Expr.Wraps layout expression other) :
    (expression.infer first mode).Twins Eq layout (other.infer second mode) := by
  obtain ⟨inside, parens⟩ := wrapped
  cases expression with
  | binary node operator left right =>
      cases inside with
      | binary _ _ onLeft onRight =>
          refine recorded_twins rfl ?_ parens
          refine twins_bind (infer_twins wraps .read left onLeft) fun leftTypes types same => ?_
          refine twins_then (infer_twins wraps .read right onRight) fun rightTypes others also => ?_
          rw [same, also, Expr.wraps_span onLeft, Expr.wraps_span onRight]
          exact twins_self rfl (Log.View.entries.part_binary ..) []
  | compare node operands operators =>
      cases inside with
      | compare _ _ each =>
          refine recorded_twins rfl ?_ parens
          exact comparison_twins (visits_wrap wraps operands each)
  | unary node operator operand =>
      cases inside with
      | unary _ _ part =>
          refine recorded_twins rfl ?_ parens
          refine twins_then (infer_twins wraps .read operand part) fun types copy same => ?_
          rw [same, Expr.wraps_span part]
          exact twins_self rfl (Log.View.entries.part_unary ..) []
  | transpose node operand =>
      cases inside with
      | transpose _ part =>
          refine recorded_twins rfl ?_ parens
          refine twins_then (infer_twins wraps .read operand part) fun types copy same => ?_
          rw [same, Expr.wraps_span part]
          exact twins_self rfl (Log.View.entries.part_transpose _) []
  | call node routine arguments =>
      cases inside with
      | call _ _ each =>
          refine recorded_twins rfl ?_ parens
          exact call_twins wraps node.span routine (visits_wrap wraps arguments each)
  | map node routine partials target =>
      cases inside with
      | map _ _ _ each =>
          refine recorded_twins rfl ?_ parens
          exact map_twins wraps node.span routine target (visits_wrap wraps partials each)
  | read node base indices =>
      cases inside with
      | read _ onBase each =>
          refine recorded_twins rfl ?_ parens
          refine twins_bind (infer_twins wraps mode.ofBase base onBase) fun types copy same => ?_
          rw [same, Expr.wraps_span onBase]
          exact read_twins node.span _ (positions_wrap wraps indices each)
  | field node base name =>
      cases inside with
      | field _ _ part =>
          refine recorded_twins rfl ?_ parens
          refine twins_then (infer_twins wraps mode.ofBase base part) fun types copy same => ?_
          rw [same, Expr.wraps_span part, wraps_bare part, field_same wraps]
          exact twins_self rfl (Log.View.entries.part_field ..) []
  | paren node inner =>
      cases inside with
      | paren _ part => exact recorded_twins rfl (infer_twins wraps mode inner part) parens
  | int node value =>
      cases inside
      exact recorded_twins rfl (twins_self rfl rfl []) parens
  | float node value =>
      cases inside
      exact recorded_twins rfl (twins_self rfl rfl []) parens
  | bool node value =>
      cases inside
      exact recorded_twins rfl (twins_self rfl rfl []) parens
  | dense literal =>
      cases inside
      exact recorded_twins rfl (twins_self rfl (Log.View.entries.part_dense literal) []) parens
  | ident name =>
      cases inside
      refine recorded_twins rfl ?_ parens
      exact twins_same (name_infer_same wraps mode name) (name_infer_entries ..) []
termination_by sizeOf expression
theorem visits_wrap (wraps : first.Wraps second) (operands : List (Expr Node))
    {layout : List Wrapping} {others : List (Expr Node)}
    (each : Paired Expr.Wraps layout operands others) :
    Paired Visit.Wraps layout (visits first operands) (visits second others) := by
  cases operands with
  | nil =>
      cases each
      exact .nil
  | cons operand rest =>
      cases each with
      | cons head tail =>
          exact .cons ⟨Expr.wraps_span head, infer_twins wraps .read operand head⟩
            (visits_wrap wraps rest tail)
termination_by sizeOf operands
theorem positions_wrap (wraps : first.Wraps second) (indices : List (Index Node))
    {layout : List Wrapping} {others : List (Index Node)}
    (each : Paired Index.Wraps layout indices others) :
    Paired Position.Wraps layout (positions first indices) (positions second others) := by
  cases indices with
  | nil =>
      cases each
      exact .nil
  | cons index rest =>
      cases each with
      | cons head tail =>
          have later := positions_wrap wraps rest tail
          cases index with
          | slice node =>
              cases head
              exact .cons (.slice node.span) later
          | «at» index =>
              cases head with
              | «at» inside =>
                  exact .cons (.at ⟨Expr.wraps_span inside, infer_twins wraps .read index inside⟩)
                    later
termination_by sizeOf indices
end

end TensorLang
