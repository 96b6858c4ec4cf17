import Mathlib.Data.List.Flatten
import TensorLang.Proofs.Entries
import TensorLang.Tree.Ids

set_option autoImplicit false

namespace TensorLang

def Log.ids (log : Log) : List Nat := log.entries.map Entry.id

@[simp] theorem Log.ids_append (first second : Log) :
    (first ++ second).ids = first.ids ++ second.ids := List.map_append

def Log.View.ids : Log.View Nat where
  part := Log.ids
  empty := rfl
  append := Log.ids_append
  fault _ _ _ := rfl
  defect _ := rfl

theorem ids_of_view {log : Log} {ids : List Nat} (viewed : Log.View.ids.part log = ids) :
    log.ids = ids := viewed

def Position.ids : Position → List Nat
  | .slice _ => []
  | .at visit => visit.check.log.ids

theorem ids_ofPosition : Log.View.ids.ofPosition = Position.ids := by
  funext position
  cases position <;> rfl

theorem ids_of_positions {log : Log} {positions : List Position}
    (visited : log.entries = positions.flatMap Position.entries) :
    log.ids = positions.flatMap Position.ids := by
  have each (position : Position) : position.entries.map Entry.id = position.ids := by
    cases position <;> rfl
  simp only [Log.ids]
  rw [visited, List.map_flatMap]
  simp only [each]

theorem read_ids_sublist (span : Span) (base : Operand) (positions : List Position) :
    (checkRead span base positions).log.ids.Sublist (positions.flatMap Position.ids) := by
  rw [← ids_ofPosition]
  exact Log.View.ids.part_read_sublist span base positions

theorem recorded_ids (node : Node) (check : Logged Outcome) :
    (recorded node check).log.ids = check.log.ids ++ check.value.toList.map fun _ => node.id := by
  simp [recorded, Log.ids, List.map_map, Function.comp_def]

theorem recorded_ids_sublist (node : Node) {check : Logged Outcome} {ids : List Nat}
    (inner : check.log.ids.Sublist ids) :
    (recorded node check).log.ids.Sublist (ids ++ [node.id]) := by
  rw [recorded_ids]
  apply inner.append
  cases check.value with
  | none => exact List.nil_sublist _
  | some types => exact List.Sublist.refl _

theorem bind_ids {α β : Type} (first : Logged α) {next : α → Logged β}
    (silent : ∀ value, (next value).log.ids = []) :
    (first >>= next).log.ids = first.log.ids :=
  Log.View.ids.part_bind_silent first silent

theorem name_infer_ids (table : SymbolTable) (mode : Mode) (name : Name Node) :
    (name.infer table mode).log.ids = [] := by
  rw [Log.ids, name_infer_entries]
  rfl

mutual
theorem infer_ids_sublist (table : SymbolTable) (mode : Mode) (expression : Expr Node) :
    (expression.infer table mode).log.ids.Sublist expression.ids := by
  cases expression with
  | binary node operator left right =>
      rw [Expr.infer, Expr.ids]
      apply recorded_ids_sublist node
      rw [Logged.log_bind, Log.ids_append,
        bind_ids _ fun types => Log.View.ids.part_binary operator node.span _ ⟨right.span, types⟩]
      exact (infer_ids_sublist table .read left).append (infer_ids_sublist table .read right)
  | compare node operands operators =>
      rw [Expr.infer, Expr.ids]
      apply recorded_ids_sublist node
      rw [ids_of_view (Log.View.ids.part_comparison _)]
      exact visits_ids_sublist table operands
  | unary node operator operand =>
      rw [Expr.infer, Expr.ids]
      apply recorded_ids_sublist node
      rw [bind_ids _ fun types => Log.View.ids.part_unary operator ⟨operand.span, types⟩]
      exact infer_ids_sublist table .read operand
  | transpose node operand =>
      rw [Expr.infer, Expr.ids]
      apply recorded_ids_sublist node
      rw [bind_ids _ fun types => Log.View.ids.part_transpose ⟨operand.span, types⟩]
      exact infer_ids_sublist table .read operand
  | call node routine arguments =>
      rw [Expr.infer, Expr.ids]
      apply recorded_ids_sublist node
      rw [ids_of_view (Log.View.ids.part_call ..)]
      exact visits_ids_sublist table arguments
  | map node routine partials target =>
      rw [Expr.infer, Expr.ids]
      apply recorded_ids_sublist node
      rw [ids_of_view (Log.View.ids.part_map ..)]
      exact visits_ids_sublist table partials
  | read node base indices =>
      rw [Expr.infer, Expr.ids]
      apply recorded_ids_sublist node
      rw [Logged.log_bind, Log.ids_append]
      apply (infer_ids_sublist table mode.ofBase base).append
      exact (read_ids_sublist ..).trans (positions_ids_sublist table indices)
  | field node base name =>
      rw [Expr.infer, Expr.ids]
      apply recorded_ids_sublist node
      rw [bind_ids _ fun types => Log.View.ids.part_field table node.span ⟨base.span, types⟩ _ name]
      exact infer_ids_sublist table mode.ofBase base
  | paren node inner =>
      rw [Expr.infer, Expr.ids]
      exact recorded_ids_sublist node (infer_ids_sublist table mode inner)
  | int node value => exact List.Sublist.refl _
  | float node value => exact List.Sublist.refl _
  | bool node value => exact List.Sublist.refl _
  | dense literal =>
      rw [Expr.infer, Expr.ids]
      have silent := ids_of_view (Log.View.ids.part_dense literal)
      exact recorded_ids_sublist literal.node (List.sublist_nil.mpr silent)
  | ident name =>
      rw [Expr.infer, Expr.ids]
      have silent := name_infer_ids table mode name
      exact recorded_ids_sublist name.node (List.sublist_nil.mpr silent)
theorem visits_ids_sublist (table : SymbolTable) (operands : List (Expr Node)) :
    ((visits table operands).flatMap (·.check.log.ids)).Sublist (exprIds operands) := by
  cases operands with
  | nil => exact List.nil_sublist _
  | cons operand rest =>
      rw [visits, exprIds, List.flatMap_cons]
      exact (infer_ids_sublist table .read operand).append (visits_ids_sublist table rest)
theorem positions_ids_sublist (table : SymbolTable) (indices : List (Index Node)) :
    ((positions table indices).flatMap Position.ids).Sublist (indexIds indices) := by
  cases indices with
  | nil => exact List.nil_sublist _
  | cons index rest =>
      cases index with
      | slice node =>
          rw [positions, indexIds, List.flatMap_cons]
          exact positions_ids_sublist table rest
      | «at» index =>
          rw [positions, indexIds, List.flatMap_cons]
          exact (infer_ids_sublist table .read index).append (positions_ids_sublist table rest)
end

theorem infer_value_ids_sublist (table : SymbolTable) (value? : Option (Expr Node)) :
    (Expr.inferValue table value?).log.ids.Sublist (valueIds value?) := by
  cases value? with
  | none => exact List.Sublist.refl _
  | some value => exact infer_ids_sublist table .read value

theorem declaration_ids (table : SymbolTable) (constancy : Constancy)
    (declaration : Declaration Node) :
    (declaration.check table constancy).log.ids =
      (Expr.inferValue table declaration.value).log.ids :=
  Log.View.ids.part_declaration table constancy declaration

theorem exprIds_eq_flatMap (expressions : List (Expr Node)) :
    exprIds expressions = expressions.flatMap Expr.ids := by
  induction expressions with
  | nil => rfl
  | cons expression rest ih => rw [exprIds, ih, List.flatMap_cons]

theorem assignment_ids (table : SymbolTable) (span : Span) (targets : List (Expr Node))
    (value : Expr Node) :
    (checkAssignment table span targets value).log.ids =
      (value.infer table .read).log.ids ++
        targets.flatMap fun target => (target.infer table target.targetMode).log.ids :=
  Log.View.ids.part_assignment table span targets value

theorem assignment_ids_sublist (table : SymbolTable) (span : Span) (targets : List (Expr Node))
    (value : Expr Node) :
    (checkAssignment table span targets value).log.ids.Sublist
      (value.ids ++ exprIds targets) := by
  rw [assignment_ids, exprIds_eq_flatMap]
  apply (infer_ids_sublist table .read value).append
  exact List.Sublist.flatMap_right targets fun target _ => infer_ids_sublist table _ target

theorem check_bounds_ids (table : SymbolTable) (lower upper : Expr Node) :
    (checkBounds table lower upper).log.ids =
      (lower.infer table .read).log.ids ++ (upper.infer table .read).log.ids :=
  Log.View.ids.part_check_bounds table lower upper

-- A condition is judged after the blocks that depend on it, which records nothing.
theorem conditional_ids (block : Logged SymbolTable) (operand : Operand) :
    (do
      let table ← block
      operand.expectCondition
      return table.pop : Logged SymbolTable).log.ids = block.log.ids :=
  Log.View.ids.part_conditional block operand

mutual
theorem stmt_ids_sublist (table : SymbolTable) (statement : Stmt Node) :
    (statement.check table).log.ids.Sublist statement.expressionIds := by
  cases statement with
  | «variable» declaration =>
      rw [Stmt.check, Stmt.expressionIds, declaration_ids]
      exact infer_value_ids_sublist table declaration.value
  | constant declaration =>
      rw [Stmt.check, Stmt.expressionIds, declaration_ids]
      exact infer_value_ids_sublist table declaration.value
  | loop node condition body =>
      rw [Stmt.check, Stmt.expressionIds, Logged.log_bind, Log.ids_append, conditional_ids]
      exact (infer_ids_sublist table .read condition).append (block_ids_sublist _ body)
  | branch node condition thenBlock elseBlock =>
      cases elseBlock with
      | none =>
          rw [Stmt.check, Stmt.expressionIds, Logged.log_bind, Log.ids_append, conditional_ids]
          exact (infer_ids_sublist table .read condition).append (block_ids_sublist _ thenBlock)
      | some elseBlock =>
          rw [Stmt.check, Stmt.expressionIds, Logged.log_bind, Log.ids_append, Logged.log_bind,
            Log.ids_append, conditional_ids]
          exact (infer_ids_sublist table .read condition).append
            ((block_ids_sublist _ thenBlock).append (block_ids_sublist _ elseBlock))
  | forRange node counter domain lower upper body =>
      rw [Stmt.check, Stmt.expressionIds, Logged.log_bind, Log.ids_append, check_bounds_ids,
        bind_ids _ fun _ => rfl]
      exact ((infer_ids_sublist _ .read lower).append (infer_ids_sublist _ .read upper)).append
        (block_ids_sublist _ body)
  | forSet node counter domain set body =>
      rw [Stmt.check, Stmt.expressionIds, Logged.log_bind, Log.ids_append,
        Name.resolveIndexSet, ids_of_view (Log.View.ids.part_resolve_set ..), List.nil_append,
        bind_ids _ fun _ => rfl]
      exact block_ids_sublist _ body
  | print node value =>
      rw [Stmt.check, Stmt.expressionIds, bind_ids _ fun _ => rfl,
        ids_of_view (Log.View.ids.part_print table value)]
      exact infer_ids_sublist table .read value
  | assign node targets value =>
      rw [Stmt.check, Stmt.expressionIds]
      exact assignment_ids_sublist table node.span targets value
  | eval node value =>
      rw [Stmt.check, Stmt.expressionIds, bind_ids _ fun _ => rfl]
      exact infer_ids_sublist table .read value
theorem block_ids_sublist (table : SymbolTable) (block : Block Node) :
    (block.check table).log.ids.Sublist block.expressionIds := by
  obtain ⟨node, statements⟩ := block
  rw [Block.check, Block.expressionIds]
  exact stmts_ids_sublist table statements
theorem stmts_ids_sublist (table : SymbolTable) (statements : List (Stmt Node)) :
    (checkStmts table statements).log.ids.Sublist (stmtExpressionIds statements) := by
  cases statements with
  | nil => exact List.Sublist.refl _
  | cons statement rest =>
      rw [checkStmts, stmtExpressionIds, Logged.log_bind, Log.ids_append]
      exact (stmt_ids_sublist table statement).append (stmts_ids_sublist _ rest)
end

theorem routine_ids (table : SymbolTable) (declaration : RoutineDecl Node) :
    (declaration.check table).log.ids =
      (declaration.body.check (declaration.bodyTable table)).log.ids :=
  Log.View.ids.part_routine table declaration

theorem definition_ids_sublist (table : SymbolTable) (definition : Definition Node) :
    (definition.check table).log.ids.Sublist definition.expressionIds := by
  cases definition with
  | element declaration =>
      rw [Definition.check, ids_of_view (Log.View.ids.part_element table declaration)]
      exact List.nil_sublist _
  | external declaration =>
      rw [Definition.check, ids_of_view (Log.View.ids.part_external table declaration)]
      exact List.nil_sublist _
  | routine declaration =>
      rw [Definition.check, routine_ids]
      exact block_ids_sublist _ declaration.body
  | constant declaration =>
      rw [Definition.check, declaration_ids]
      exact infer_value_ids_sublist table declaration.value
  | test declaration => exact List.nil_sublist _

theorem definitions_ids_sublist (table : SymbolTable) (definitions : List (Definition Node)) :
    (checkDefinitions table definitions).log.ids.Sublist
      (definitions.flatMap Definition.expressionIds) := by
  induction definitions generalizing table with
  | nil => exact List.Sublist.refl _
  | cons definition rest ih =>
      rw [checkDefinitions, Logged.log_bind, Log.ids_append, List.flatMap_cons]
      exact (definition_ids_sublist table definition).append (ih _)

theorem run_ids_sublist (program : Program Node) (intrinsics : Bool) :
    (program.run intrinsics).log.ids.Sublist program.expressionIds := by
  rw [Program.run, Logged.log_bind, Log.ids_append, ids_of_view (Log.View.ids.part_registering ..)]
  exact definitions_ids_sublist _ program.definitions

end TensorLang
