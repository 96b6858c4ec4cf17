import TensorLang.Proofs.LaterDefinitions
import TensorLang.Proofs.PlacedRules

set_option autoImplicit false

namespace TensorLang

open Logged

variable {place : Span → Prop}

theorem expr_place (expression : Expr Node) (inside : Stand place expression.outline) :
    place expression.span := by
  have own : expression.row ∈ expression.outline := by cases expression <;> simp [Expr.outline]
  exact inside expression.row own

mutual
theorem infer_placed (table : SymbolTable) (mode : Mode) (expression : Expr Node)
    (inside : Stand place expression.outline) :
    (expression.infer table mode).Placed place := by
  have here := expr_place expression inside
  cases expression with
  | binary node operator left right =>
      simp only [Expr.outline, stand_cons, stand_append] at inside
      obtain ⟨_, onLeft, onRight⟩ := inside
      rw [Expr.infer, recorded_placed, placed_bind, placed_bind]
      exact ⟨infer_placed table .read left onLeft, infer_placed table .read right onRight,
        binary_placed here (expr_place left onLeft) (expr_place right onRight) operator⟩
  | compare node operands operators =>
      simp only [Expr.outline, stand_cons] at inside
      rw [Expr.infer, recorded_placed]
      exact comparison_placed (visits_placed table operands inside.2)
  | unary node operator operand =>
      simp only [Expr.outline, stand_cons] at inside
      rw [Expr.infer, recorded_placed, placed_bind]
      exact ⟨infer_placed table .read operand inside.2,
        unary_placed (expr_place operand inside.2) operator⟩
  | transpose node operand =>
      simp only [Expr.outline, stand_cons] at inside
      rw [Expr.infer, recorded_placed, placed_bind]
      exact ⟨infer_placed table .read operand inside.2,
        transpose_placed (expr_place operand inside.2)⟩
  | call node routine arguments =>
      simp only [Expr.outline, stand_cons] at inside
      obtain ⟨_, named, onArguments⟩ := inside
      rw [Expr.infer, recorded_placed]
      exact call_placed table here named (visits_placed table arguments onArguments)
  | map node routine partials target =>
      simp only [Expr.outline, stand_cons, stand_append] at inside
      obtain ⟨_, named, onPartials, targeted, _⟩ := inside
      rw [Expr.infer, recorded_placed]
      exact map_placed table here named targeted (visits_placed table partials onPartials)
  | read node base indices =>
      simp only [Expr.outline, stand_cons, stand_append] at inside
      obtain ⟨_, onBase, onIndices⟩ := inside
      rw [Expr.infer, recorded_placed, placed_bind]
      exact ⟨infer_placed table mode.ofBase base onBase,
        read_placed here (expr_place base onBase) (positions_placed table indices onIndices)⟩
  | field node base name =>
      simp only [Expr.outline, stand_cons, stand_append] at inside
      obtain ⟨_, onBase, named, _⟩ := inside
      rw [Expr.infer, recorded_placed, placed_bind]
      exact ⟨infer_placed table mode.ofBase base onBase,
        field_placed table here (expr_place base onBase) _ named⟩
  | paren node inner =>
      simp only [Expr.outline, stand_cons] at inside
      rw [Expr.infer, recorded_placed]
      exact infer_placed table mode inner inside.2
  | int node value => exact (recorded_placed node _).mpr (placed_pure _)
  | float node value => exact (recorded_placed node _).mpr (placed_pure _)
  | bool node value => exact (recorded_placed node _).mpr (placed_pure _)
  | dense literal => exact (recorded_placed literal.node _).mpr (dense_infer_placed here)
  | ident name => exact (recorded_placed name.node _).mpr (name_infer_placed table mode here)
theorem visits_placed (table : SymbolTable) (operands : List (Expr Node))
    (inside : Stand place (outlineExprs operands)) :
    ∀ visit ∈ visits table operands, visit.Placed place := by
  cases operands with
  | nil => exact List.forall_mem_nil _
  | cons operand rest =>
      rw [outlineExprs, stand_append] at inside
      exact List.forall_mem_cons.mpr
        ⟨⟨expr_place operand inside.1, infer_placed table .read operand inside.1⟩,
          visits_placed table rest inside.2⟩
theorem positions_placed (table : SymbolTable) (indices : List (Index Node))
    (inside : Stand place (outlineIndices indices)) :
    ∀ position ∈ positions table indices, position.Placed place := by
  cases indices with
  | nil => exact List.forall_mem_nil _
  | cons index rest =>
      cases index with
      | slice node =>
          rw [outlineIndices, stand_cons] at inside
          exact List.forall_mem_cons.mpr ⟨inside.1, positions_placed table rest inside.2⟩
      | «at» index =>
          rw [outlineIndices, stand_append] at inside
          exact List.forall_mem_cons.mpr
            ⟨⟨expr_place index inside.1, infer_placed table .read index inside.1⟩,
              positions_placed table rest inside.2⟩
end

theorem declaration_placed (table : SymbolTable) (constancy : Constancy) (label : String)
    (declaration : Declaration Node) (inside : Stand place (declaration.outline label)) :
    (declaration.check table constancy).Placed place := by
  simp only [Declaration.outline, stand_cons, stand_append] at inside
  obtain ⟨here, _, onType, onValue⟩ := inside
  have valued : (Expr.inferValue table declaration.value).Placed place := by
    cases given : declaration.value with
    | none => exact placed_pure _
    | some value =>
        rw [given] at onValue
        exact infer_placed table .read value onValue
  simp only [Declaration.check, placed_bind]
  rw [table.binds_typed_promised]
  refine ⟨annotation_placed table onType, valued, placed_pure _, ?_⟩
  split
  · simp [here]
  · simp only [placed_bind, placed_pure, and_true, Constancy.checkValue]
    split
    · exact placed_require here _ _
    · exact placed_pure ()

theorem assignment_errors_placed {span : Span} (known : place span) {targets : List Target}
    (each : ∀ target ∈ targets, place target.span) (values : List Ty) :
    ∀ error ∈ assignmentErrors span targets values, place error.span := by
  simp only [assignmentErrors]
  split
  · intro error member
    obtain ⟨⟨target, value⟩, paired, found⟩ := List.mem_filterMap.mp member
    have here := each target (List.of_mem_zip paired).1
    simp only [Target.error?] at found
    split at found
    · cases found
    · split at found
      · cases found
      · rw [← Option.some.inj found]
        exact here
  · exact List.forall_mem_singleton.mpr known

theorem exprs_stand {expressions : List (Expr Node)}
    (inside : Stand place (outlineExprs expressions)) :
    ∀ expression ∈ expressions, Stand place expression.outline := by
  induction expressions with
  | nil => exact List.forall_mem_nil _
  | cons expression rest ih =>
      rw [outlineExprs, stand_append] at inside
      exact List.forall_mem_cons.mpr ⟨inside.1, ih inside.2⟩

theorem assignment_placed (table : SymbolTable) {span : Span} (known : place span)
    {targets : List (Expr Node)} (onTargets : Stand place (outlineExprs targets))
    {value : Expr Node} (onValue : Stand place value.outline) :
    (checkAssignment table span targets value).Placed place := by
  have each := exprs_stand onTargets
  have visited : ∀ target ∈ targets, (target.checkTarget table).Placed place := by
    intro target listed
    simp only [Expr.checkTarget, placed_bind, placed_pure, and_true]
    exact infer_placed table target.targetMode target (each target listed)
  have stand : ∀ target ∈ (targets.mapM (Expr.checkTarget table)).value, place target.span := by
    rw [value_mapM]
    exact List.forall_mem_map.mpr fun target listed => expr_place target (each target listed)
  simp only [checkAssignment, checkTargets, placed_bind, placed_mapM, placed_reportAll,
    placed_pure, and_true]
  refine ⟨infer_placed table .read value onValue, visited, ?_⟩
  cases (value.infer table .read).value with
  | none => exact List.forall_mem_nil _
  | some values => exact assignment_errors_placed known stand values

theorem bounds_placed (table : SymbolTable) {lower upper : Expr Node}
    (onLower : Stand place lower.outline) (onUpper : Stand place upper.outline) :
    (checkBounds table lower upper).Placed place := by
  simp only [checkBounds, placed_bind]
  exact ⟨infer_placed table .read lower onLower, infer_placed table .read upper onUpper,
    expect_placed (expr_place lower onLower) _ _, expect_placed (expr_place upper onUpper) _ _⟩

mutual
theorem stmt_placed (table : SymbolTable) (statement : Stmt Node)
    (inside : Stand place statement.outline) : (statement.check table).Placed place := by
  cases statement with
  | «variable» declaration => exact declaration_placed table .variable "var" declaration inside
  | constant declaration => exact declaration_placed table .constant "const" declaration inside
  | loop node condition body =>
      simp only [Stmt.outline, stand_cons, stand_append] at inside
      obtain ⟨_, onCondition, onBody⟩ := inside
      simp only [Stmt.check, placed_bind, placed_pure, and_true]
      exact ⟨infer_placed table .read condition onCondition, block_placed _ body onBody,
        expect_placed (expr_place condition onCondition) _ _⟩
  | branch node condition thenBlock elseBlock =>
      cases elseBlock with
      | none =>
          simp only [Stmt.outline, stand_cons, stand_append] at inside
          obtain ⟨_, onCondition, onThen⟩ := inside
          simp only [Stmt.check, placed_bind, placed_pure, and_true]
          exact ⟨infer_placed table .read condition onCondition, block_placed _ thenBlock onThen,
            expect_placed (expr_place condition onCondition) _ _⟩
      | some elseBlock =>
          simp only [Stmt.outline, stand_cons, stand_append] at inside
          obtain ⟨_, ⟨onCondition, onThen⟩, onElse⟩ := inside
          simp only [Stmt.check, placed_bind, placed_pure, and_true]
          exact ⟨infer_placed table .read condition onCondition, block_placed _ thenBlock onThen,
            block_placed _ elseBlock onElse, expect_placed (expr_place condition onCondition) _ _⟩
  | forRange node counter domain lower upper body =>
      simp only [Stmt.outline, stand_cons, stand_append] at inside
      obtain ⟨_, _, _, ⟨onLower, onUpper⟩, onBody⟩ := inside
      simp only [Stmt.check, placed_bind, placed_pure, and_true]
      exact ⟨bounds_placed table.push onLower onUpper, block_placed _ body onBody⟩
  | forSet node counter domain set body =>
      simp only [Stmt.outline, stand_cons] at inside
      obtain ⟨_, _, _, onSet, onBody⟩ := inside
      simp only [Stmt.check, placed_bind, placed_pure, and_true]
      exact ⟨resolve_set_placed table.push _ onSet, block_placed _ body onBody⟩
  | print node value =>
      simp only [Stmt.outline, stand_cons] at inside
      simp only [Stmt.check, checkPrint, placed_bind, placed_pure, and_true]
      exact ⟨infer_placed table .read value inside.2,
        expect_placed (expr_place value inside.2) _ _⟩
  | assign node targets value =>
      simp only [Stmt.outline, stand_cons, stand_append] at inside
      obtain ⟨here, onTargets, onValue⟩ := inside
      rw [Stmt.check]
      exact assignment_placed table here onTargets onValue
  | eval node value =>
      simp only [Stmt.outline, stand_cons] at inside
      simp only [Stmt.check, placed_bind, placed_pure, and_true]
      exact infer_placed table .read value inside.2
theorem block_placed (table : SymbolTable) (block : Block Node)
    (inside : Stand place block.outline) : (block.check table).Placed place := by
  obtain ⟨node, statements⟩ := block
  rw [Block.outline, stand_cons] at inside
  rw [Block.check]
  exact stmts_placed table statements inside.2
theorem stmts_placed (table : SymbolTable) (statements : List (Stmt Node))
    (inside : Stand place (outlineStmts statements)) :
    (checkStmts table statements).Placed place := by
  cases statements with
  | nil =>
      rw [checkStmts]
      exact placed_pure _
  | cons statement rest =>
      rw [outlineStmts, stand_append] at inside
      rw [checkStmts, placed_bind]
      exact ⟨stmt_placed table statement inside.1, stmts_placed _ rest inside.2⟩
end

theorem fields_placed (table : SymbolTable) (declared : List String)
    {fields : List (FieldDecl Node)} (inside : Stand place (fields.flatMap FieldDecl.outline)) :
    (checkFields table declared fields).Placed place := by
  induction fields generalizing declared with
  | nil => exact placed_pure _
  | cons field rest ih =>
      simp only [List.flatMap_cons, FieldDecl.outline, stand_append, stand_cons] at inside
      obtain ⟨⟨here, _, onType⟩, later⟩ := inside
      simp only [checkFields, placed_bind]
      refine ⟨annotation_placed table onType, ?_⟩
      split
      · simp [here, ih declared later]
      · simp only [placed_bind]
        refine ⟨ih _ later, ?_⟩
        split <;> simp

theorem bind_slots_placed (table : SymbolTable) {slots : List Slot}
    (each : ∀ slot ∈ slots, Stand place slot.type.outline) :
    (bindSlots table slots).Placed place := by
  induction slots generalizing table with
  | nil => exact placed_pure _
  | cons slot rest ih =>
      obtain ⟨head, tail⟩ := List.forall_mem_cons.mp each
      simp only [bindSlots, placed_bind]
      refine ⟨annotation_placed table head, ?_⟩
      split <;> simp [ih _ tail]

theorem registering_placed (table : SymbolTable) (next : Except Duplicate SymbolTable) :
    (table.registering next).Placed place := by
  simp [SymbolTable.registering]

theorem element_placed (table : SymbolTable) (declaration : ElementDecl Node)
    (inside : Stand place (Definition.element declaration).outline) :
    (declaration.check table).Placed place := by
  simp only [Definition.outline, stand_cons] at inside
  obtain ⟨here, _, onFields⟩ := inside
  simp only [ElementDecl.check, placed_bind]
  refine ⟨fields_placed table [] onFields, ?_⟩
  split
  · simp [here]
  · exact registering_placed table _

theorem external_placed (table : SymbolTable) (declaration : ExternalDecl Node)
    (inside : Stand place (Definition.external declaration).outline) :
    (declaration.check table).Placed place := by
  simp only [Definition.outline, stand_cons] at inside
  obtain ⟨here, _, onType⟩ := inside
  simp only [ExternalDecl.check, placed_bind]
  refine ⟨annotation_placed table onType, ?_⟩
  split <;> simp [here]

theorem register_placed (table : SymbolTable) (declaration : RoutineDecl Node)
    (known : place declaration.node.span) (parameters results : List (Option Var)) :
    (declaration.register table parameters results).Placed place := by
  simp only [RoutineDecl.register]
  split
  · split
    · simp [known]
    · exact registering_placed table _
  · exact placed_pure _

theorem routine_placed (table : SymbolTable) (declaration : RoutineDecl Node)
    (inside : Stand place (Definition.routine declaration).outline) :
    (declaration.check table).Placed place := by
  simp only [Definition.outline, stand_cons, stand_append] at inside
  obtain ⟨here, _, ⟨onParameters, onResults⟩, onBody⟩ := inside
  have parameters : ∀ slot ∈ declaration.parameters.map ParameterDecl.slot,
      Stand place slot.type.outline := by
    refine List.forall_mem_map.mpr fun parameter listed => ?_
    have whole := stand_flatMap onParameters listed
    simp only [ParameterDecl.outline, stand_cons] at whole
    exact whole.2.2
  have results : ∀ slot ∈ declaration.results.map ResultDecl.slot,
      Stand place slot.type.outline := by
    refine List.forall_mem_map.mpr fun result listed => ?_
    have whole := stand_flatMap onResults listed
    simp only [ResultDecl.outline, stand_cons] at whole
    exact whole.2.2
  simp only [RoutineDecl.check, placed_bind]
  exact ⟨bind_slots_placed table.push parameters, bind_slots_placed _ results,
    block_placed _ declaration.body onBody, register_placed _ declaration here _ _⟩

theorem definition_placed (table : SymbolTable) (definition : Definition Node)
    (inside : Stand place definition.outline) : (definition.check table).Placed place := by
  cases definition with
  | element declaration => exact element_placed table declaration inside
  | external declaration => exact external_placed table declaration inside
  | routine declaration => exact routine_placed table declaration inside
  | constant declaration => exact declaration_placed table .constant "const" declaration inside
  | test declaration => exact placed_pure table

/--
The errors of a program come definition by definition. Those that are found while a definition is
checked stand at nodes of that definition, whatever the definitions before it are. Tests have none.
-/
theorem errors_inside_definition (node : Node) (early late : List (Definition Node))
    (definition : Definition Node) (intrinsics : Bool) :
    let before := Program.run ⟨node, early⟩ intrinsics
    let checked := definition.check before.value
    let after := checkDefinitions checked.value late
    (Program.run ⟨node, early ++ definition :: late⟩ intrinsics).log.errors =
        before.log.errors ++ (checked.log.errors ++ after.log.errors) ∧
      (∀ error ∈ checked.log.errors, ∃ row ∈ definition.outline, row.node.span = error.span) ∧
      ((∃ declaration, definition = .test declaration) → checked.log.errors = []) := by
  intro before checked after
  refine ⟨?_, ?_, ?_⟩
  · rw [run_append, log_bind, checkDefinitions]
    rfl
  · have own : Stand (fun span => ∃ row ∈ definition.outline, row.node.span = span)
        definition.outline :=
      fun row member => ⟨row, member, rfl⟩
    exact definition_placed before.value definition own
  · rintro ⟨declaration, rfl⟩
    rfl

end TensorLang
