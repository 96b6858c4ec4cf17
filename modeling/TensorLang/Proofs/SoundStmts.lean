import TensorLang.Proofs.Registries
import TensorLang.Proofs.SoundExprs

set_option autoImplicit false

namespace TensorLang

variable {table : SymbolTable} {limit : ℕ∞}

theorem rule_of_elements {before after : SymbolTable} (same : after.elements = before.elements) :
    after.rule limit = before.rule limit := by
  simp only [SymbolTable.rule]
  rw [same]

theorem infer_value_yields (valid : table.WellFormed limit) (value? : Option (Expr Node)) :
    (Expr.inferValue table value?).Yields (table.rule limit)
      (Outcome.WellFormed table.elements limit) := by
  cases value? with
  | none => exact Logged.yields_pure Outcome.wellFormed_none
  | some value => exact infer_yields valid .read value

theorem check_value_yields (constancy : Constancy) (span : Span) (declared? : Option Ty)
    (found? : Outcome) :
    (constancy.checkValue span declared? found?).Yields (table.rule limit) fun _ => True := by
  simp only [Constancy.checkValue]
  cases declared? with
  | none => exact Logged.yields_pure trivial
  | some declared =>
      cases found? with
      | none => exact Logged.yields_pure trivial
      | some found => exact Logged.yields_require trivial

theorem declaration_yields (valid : table.WellFormed limit) (constancy : Constancy)
    (declaration : Declaration Node) (few : declaration.type.endpoints.length < limit) :
    (declaration.check table constancy).Yields (table.rule limit)
      (SymbolTable.WellFormed limit) := by
  unfold Declaration.check
  have written := type_expr_resolve_yields valid declaration.type few
  refine Logged.yields_bind written fun declared? known => ?_
  refine Logged.yields_bind (infer_value_yields valid declaration.value) fun found? _ => ?_
  dsimp only
  rw [table.binds_typed_promised, pure_bind]
  by_cases bound : (table.local? declaration.name.text).any (·.var.type?.isSome) = true
  · rw [if_pos bound]
    refine Logged.yields_bind (Logged.yields_report trivial) fun _ _ => ?_
    exact Logged.yields_pure valid
  · rw [if_neg bound]
    refine Logged.yields_bind (check_value_yields ..) fun _ _ => ?_
    exact Logged.yields_pure (valid.bind declaration.name.text constancy.access known)

theorem check_target_yields (valid : table.WellFormed limit) (target : Expr Node) :
    (target.checkTarget table).Yields (table.rule limit) fun _ => True := by
  refine Logged.yields_bind (infer_yields valid target.targetMode target) fun _ _ => ?_
  exact Logged.yields_pure trivial

theorem declare_targets_wellFormed (valid : table.WellFormed limit)
    (targets : List (Expr Node × Option Ty))
    (known : ∀ target ∈ targets, IfKnown (·.WellFormed table.elements limit) target.2) :
    (table.declareTargets targets).WellFormed limit := by
  let holds (after : SymbolTable) : Prop :=
    after.WellFormed limit ∧ after.elements = table.elements
  have bound (target : Expr Node × Option Ty) (member : target ∈ targets) (after : SymbolTable)
      (held : holds after) (name : String) : holds (after.bind name target.2 .readWrite) := by
    obtain ⟨afterValid, same⟩ := held
    have typed := known target member
    rw [← same] at typed
    exact ⟨afterValid.bind name .readWrite typed, (after.elements_bind ..).trans same⟩
  have start : holds table := ⟨valid, rfl⟩
  exact (SymbolTable.declare_targets_preserve bound start).1

theorem target_types_known {good : Ty → Prop} (targets : List (Expr Node)) {values? : Outcome}
    (valid : IfKnown (fun types => ∀ type ∈ types, good type) values?) (errors : List TypeError) :
    ∀ type? ∈ targetTypes targets values? errors, IfKnown good type? := by
  have absent : ∀ type? ∈ targets.map fun _ => (none : Option Ty), IfKnown good type? := by
    intro type? member
    obtain ⟨_, _, rfl⟩ := List.mem_map.mp member
    exact ifKnown_none
  simp only [targetTypes]
  cases values? with
  | none => exact absent
  | some values =>
      dsimp only
      by_cases fit : errors.isEmpty = true
      · rw [if_pos fit]
        intro type? member
        obtain ⟨type, typeMember, rfl⟩ := List.mem_map.mp member
        exact ifKnown_some (valid values rfl type typeMember)
      · rw [if_neg fit]
        exact absent

theorem check_targets_yields (valid : table.WellFormed limit) (span : Span)
    (targets : List (Expr Node)) (value : Expr Node) :
    (checkTargets table span targets value).Yields (table.rule limit) fun checked =>
      ∀ target ∈ checked, IfKnown (·.WellFormed table.elements limit) target.2 := by
  refine Logged.yields_bind (infer_yields valid .read value) fun values? valuesValid => ?_
  have each := Logged.yields_mapM fun target (_ : target ∈ targets) =>
    check_target_yields valid target
  refine Logged.yields_bind each fun checked _ => ?_
  refine Logged.yields_bind (Logged.yields_reportAll fun _ _ => trivial) fun _ _ => ?_
  refine Logged.yields_pure fun target member => ?_
  exact target_types_known targets valuesValid _ target.2 (List.of_mem_zip member).2

theorem assignment_yields (valid : table.WellFormed limit) (span : Span)
    (targets : List (Expr Node)) (value : Expr Node) :
    (checkAssignment table span targets value).Yields (table.rule limit)
      (SymbolTable.WellFormed limit) := by
  refine Logged.yields_bind (check_targets_yields valid span targets value) fun checked known => ?_
  exact Logged.yields_pure (declare_targets_wellFormed valid checked known)

theorem check_bounds_yields (valid : table.WellFormed limit) (lower upper : Expr Node) :
    (checkBounds table lower upper).Yields (table.rule limit) fun _ => True := by
  refine Logged.yields_bind (infer_yields valid .read lower) fun _ _ => ?_
  refine Logged.yields_bind (infer_yields valid .read upper) fun _ _ => ?_
  refine Logged.yields_bind (expect_yields ..) fun _ _ => ?_
  exact expect_yields ..

theorem counter_wellFormed (valid : table.WellFormed limit) (counter : Name Node) :
    (table.push.bindCounter counter).WellFormed limit :=
  valid.push.bind counter.text .read (ifKnown_some (Ty.wellFormed_ofScalar .int))

theorem scoped_yields {block : Logged SymbolTable} {operand : Operand}
    (valid : block.Yields (table.rule limit) (SymbolTable.WellFormed limit)) :
    (do
      let table ← block
      operand.expectCondition
      return table.pop : Logged SymbolTable).Yields (table.rule limit)
        (SymbolTable.WellFormed limit) := by
  refine Logged.yields_bind valid fun inner innerValid => ?_
  refine Logged.yields_bind (expect_yields ..) fun _ _ => ?_
  exact Logged.yields_pure innerValid.pop

theorem print_yields (valid : table.WellFormed limit) (value : Expr Node) :
    (checkPrint table value).Yields (table.rule limit) fun _ => True := by
  refine Logged.yields_bind (infer_yields valid .read value) fun _ _ => ?_
  exact expect_yields ..

theorem counted_yields (counter : Name Node) {block : Logged SymbolTable}
    (inner : block.Yields ((table.push.bindCounter counter).rule limit)
      (SymbolTable.WellFormed limit)) :
    (do
      let table ← block
      return table.pop : Logged SymbolTable).Yields (table.rule limit)
        (SymbolTable.WellFormed limit) := by
  have same : (table.push.bindCounter counter).elements = table.elements :=
    table.push.elements_bind ..
  rw [rule_of_elements same] at inner
  exact Logged.yields_bind inner fun _ innerValid => Logged.yields_pure innerValid.pop

mutual
theorem stmt_yields {table : SymbolTable} (valid : table.WellFormed limit)
    (statement : Stmt Node)
    (few : ∀ written ∈ statement.annotations, written.endpoints.length < limit) :
    (statement.check table).Yields (table.rule limit) (SymbolTable.WellFormed limit) := by
  cases statement with
  | «variable» declaration =>
      exact declaration_yields valid .variable declaration
        (few declaration.type (by simp [Stmt.annotations]))
  | constant declaration =>
      exact declaration_yields valid .constant declaration
        (few declaration.type (by simp [Stmt.annotations]))
  | loop node condition body =>
      rw [Stmt.check]
      refine Logged.yields_bind (infer_yields valid .read condition) fun types _ => ?_
      exact scoped_yields (block_yields valid.push body few)
  | branch node condition thenBlock elseBlock =>
      cases elseBlock with
      | none =>
          rw [Stmt.check]
          refine Logged.yields_bind (infer_yields valid .read condition) fun types _ => ?_
          exact scoped_yields (block_yields valid.push thenBlock few)
      | some elseBlock =>
          rw [Stmt.check]
          refine Logged.yields_bind (infer_yields valid .read condition) fun types _ => ?_
          have taken := block_yields valid.push thenBlock fun written member =>
            few written (by simp [Stmt.annotations, member])
          refine Logged.yields_bind_value taken ?_
          have same : (thenBlock.check table.push).value.elements = table.elements :=
            (block_registries table.push thenBlock).elements
          rw [← rule_of_elements same]
          exact scoped_yields (block_yields taken.value.pop.push elseBlock fun written member =>
            few written (by simp [Stmt.annotations, member]))
  | forRange node counter domain lower upper body =>
      rw [Stmt.check]
      refine Logged.yields_bind (check_bounds_yields valid.push lower upper) fun _ _ => ?_
      exact counted_yields counter (block_yields (counter_wellFormed valid counter) body few)
  | forSet node counter domain set body =>
      rw [Stmt.check]
      refine Logged.yields_bind (resolve_set_yields valid.push _ set) fun _ _ => ?_
      exact counted_yields counter (block_yields (counter_wellFormed valid counter) body few)
  | print node value =>
      rw [Stmt.check]
      exact Logged.yields_bind (print_yields valid value) fun _ _ => Logged.yields_pure valid
  | assign node targets value => exact assignment_yields valid node.span targets value
  | eval node value =>
      rw [Stmt.check]
      refine Logged.yields_bind (infer_yields valid .read value) fun _ _ => ?_
      exact Logged.yields_pure valid
theorem block_yields {table : SymbolTable} (valid : table.WellFormed limit) (block : Block Node)
    (few : ∀ written ∈ block.annotations, written.endpoints.length < limit) :
    (block.check table).Yields (table.rule limit) (SymbolTable.WellFormed limit) := by
  obtain ⟨node, statements⟩ := block
  rw [Block.check]
  exact stmts_yields valid statements few
theorem stmts_yields {table : SymbolTable} (valid : table.WellFormed limit)
    (statements : List (Stmt Node))
    (few : ∀ written ∈ stmtAnnotations statements, written.endpoints.length < limit) :
    (checkStmts table statements).Yields (table.rule limit) (SymbolTable.WellFormed limit) := by
  cases statements with
  | nil =>
      rw [checkStmts]
      exact Logged.yields_pure valid
  | cons statement rest =>
      rw [checkStmts]
      have first := stmt_yields valid statement fun written member =>
        few written (by simp [stmtAnnotations, member])
      apply Logged.yields_bind_value first
      rw [← rule_of_elements (stmt_registries table statement).elements]
      exact stmts_yields first.value rest fun written member =>
        few written (by simp [stmtAnnotations, member])
end

end TensorLang
