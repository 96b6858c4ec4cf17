import TensorLang.Proofs.CompletePrograms
import TensorLang.Proofs.Reads
import TensorLang.Proofs.References

set_option autoImplicit false

namespace TensorLang

def Fault.isUnboundVariable : Fault → Bool
  | .undeclared .variable _ => true
  | _ => false

theorem fault_bound {fault : Fault} (other : ∀ name, fault ≠ .undeclared .variable name) :
    fault.isUnboundVariable = false := by
  unfold Fault.isUnboundVariable
  split
  · exact absurd rfl (other _)
  · rfl

def TypeError.isUnbound (error : TypeError) : Bool := error.fault.isUnboundVariable

def Log.View.unbound : Log.View TypeError where
  part log := log.errors.filter TypeError.isUnbound
  empty := rfl
  append _ _ := List.filter_append ..
  fault span fault other := List.filter_cons_of_neg (by simp [TypeError.isUnbound, fault_bound other])
  defect _ := rfl

def unboundErrors (references : List Reference) : List TypeError :=
  (references.filter Reference.isReported).map Reference.error

@[simp] theorem unbound_errors_nil : unboundErrors [] = [] := rfl

@[simp] theorem unbound_errors_append (first second : List Reference) :
    unboundErrors (first ++ second) = unboundErrors first ++ unboundErrors second := by
  simp [unboundErrors]

theorem unbound_errors_flatMap {α : Type} (items : List α) (references : α → List Reference) :
    unboundErrors (items.flatMap references) =
      items.flatMap fun item => unboundErrors (references item) := by
  induction items with
  | nil => rfl
  | cons item rest ih => rw [List.flatMap_cons, unbound_errors_append, ih, List.flatMap_cons]

theorem unbound_errors_visitedIf (visited : Bool) (references : List Reference) :
    unboundErrors (references.map (.visitedIf visited)) =
      if visited then unboundErrors references else [] := by
  induction references with
  | nil => cases visited <;> rfl
  | cons reference rest ih =>
      cases visited with
      | true =>
          have same : reference.visitedIf true = reference := by simp [Reference.visitedIf]
          rw [List.map_cons, same, ← List.singleton_append, unbound_errors_append, ih]
          exact (unbound_errors_append [reference] rest).symm
      | false =>
          have skipped : (reference.visitedIf false).isReported = false := by
            simp [Reference.isReported, Reference.visitedIf]
          rw [List.map_cons, unboundErrors, List.filter_cons_of_neg (by simp [skipped])]
          exact ih

open Log.View

theorem recorded_unbound (node : Node) (check : Logged Outcome) :
    unbound.part (recorded node check).log = unbound.part check.log := by
  rw [recorded]
  exact unbound.part_bind_silent _ fun _ => rfl

theorem name_infer_unbound (around : Environment) (mode : Mode) (name : Name Node) :
    unbound.part (name.infer around.table mode).log =
      unboundErrors [⟨name, mode, around, true⟩] := by
  rw [name.infer_promised]
  cases found : around.table.symbol? name.text with
  | none =>
      by_cases new : mode = .define
      · rw [new]
        simp [unboundErrors, Reference.isReported]
      · have reported : (⟨name, mode, around, true⟩ : Reference).isReported = true := by
          simp [Reference.isReported, Reference.isUnbound, found, new]
        dsimp only
        rw [if_neg new, unboundErrors, List.filter_cons_of_pos reported]
        rfl
  | some symbol =>
      have bound : (⟨name, mode, around, true⟩ : Reference).isReported = false := by
        simp [Reference.isReported, Reference.isUnbound, found]
      rw [unboundErrors, List.filter_cons_of_neg (by simp [bound])]
      simp

mutual
theorem infer_unbound_errors (around : Environment) (valid : around.table.WellFormed ⊤)
    (mode : Mode) (expression : Expr Node) :
    unbound.part (expression.infer around.table mode).log =
      unboundErrors (expression.references around mode) := by
  cases expression with
  | binary node operator left right =>
      have first := infer_unbound_errors around valid .read left
      have second := infer_unbound_errors around valid .read right
      rw [Expr.infer, recorded_unbound, Expr.references, unbound_errors_append]
      simp [first, second]
  | compare node operands operators =>
      rw [Expr.infer, recorded_unbound, part_comparison, Expr.references]
      exact visits_unbound_errors around valid operands
  | unary node operator operand =>
      have inner := infer_unbound_errors around valid .read operand
      rw [Expr.infer, recorded_unbound, Expr.references]
      simp [inner]
  | transpose node operand =>
      have inner := infer_unbound_errors around valid .read operand
      rw [Expr.infer, recorded_unbound, Expr.references]
      simp [inner]
  | call node routine arguments =>
      rw [Expr.infer, recorded_unbound, part_call, Expr.references]
      exact visits_unbound_errors around valid arguments
  | map node routine partials target =>
      rw [Expr.infer, recorded_unbound, part_map, Expr.references]
      exact visits_unbound_errors around valid partials
  | read node base indices =>
      -- The types of the base are well formed, so that its indices are visited all or not at all.
      have inner := infer_unbound_errors around valid mode.ofBase base
      have inside := positions_unbound_errors around valid indices
      have typed := (infer_yields valid mode.ofBase base).value
      rw [Expr.infer, recorded_unbound, Logged.log_bind, append, inner, Expr.references,
        unbound_errors_append, unbound_errors_visitedIf, unbound.part_read node.span _ typed,
        inside, positions_length]
  | field node base name =>
      have inner := infer_unbound_errors around valid mode.ofBase base
      rw [Expr.infer, recorded_unbound, Expr.references]
      simp [inner]
  | paren node inner =>
      rw [Expr.infer, recorded_unbound, Expr.references]
      exact infer_unbound_errors around valid mode inner
  | int node value => rfl
  | float node value => rfl
  | bool node value => rfl
  | dense literal =>
      rw [Expr.infer, recorded_unbound, part_dense]
      rfl
  | ident name =>
      rw [Expr.infer, recorded_unbound, Expr.references]
      exact name_infer_unbound around mode name
theorem visits_unbound_errors (around : Environment) (valid : around.table.WellFormed ⊤)
    (operands : List (Expr Node)) :
    ((visits around.table operands).flatMap fun visit => unbound.part visit.check.log) =
      unboundErrors (exprReferences around operands) := by
  cases operands with
  | nil => rfl
  | cons operand rest =>
      have first := infer_unbound_errors around valid .read operand
      have later := visits_unbound_errors around valid rest
      rw [visits, exprReferences, List.flatMap_cons, unbound_errors_append, first, later]
theorem positions_unbound_errors (around : Environment) (valid : around.table.WellFormed ⊤)
    (indices : List (Index Node)) :
    (positions around.table indices).flatMap unbound.ofPosition =
      unboundErrors (indexReferences around indices) := by
  cases indices with
  | nil => rfl
  | cons index rest =>
      have later := positions_unbound_errors around valid rest
      cases index with
      | slice node =>
          rw [positions, indexReferences, List.flatMap_cons]
          exact later
      | «at» index =>
          have first := infer_unbound_errors around valid .read index
          rw [positions, indexReferences, List.flatMap_cons, unbound_errors_append, ← first, later]
          rfl
end

theorem value_unbound_errors (around : Environment) (valid : around.table.WellFormed ⊤)
    (value? : Option (Expr Node)) :
    unbound.part (Expr.inferValue around.table value?).log =
      unboundErrors (valueReferences around value?) := by
  cases value? with
  | none => rfl
  | some value => exact infer_unbound_errors around valid .read value

theorem declaration_unbound_errors (around : Environment) (valid : around.table.WellFormed ⊤)
    (constancy : Constancy) (declaration : Declaration Node) :
    unbound.part (declaration.check around.table constancy).log =
      unboundErrors (valueReferences around declaration.value) := by
  rw [part_declaration]
  exact value_unbound_errors around valid declaration.value

theorem assignment_unbound_errors (around : Environment) (valid : around.table.WellFormed ⊤)
    (node : Node) (targets : List (Expr Node)) (value : Expr Node) :
    unbound.part (checkAssignment around.table node.span targets value).log =
      unboundErrors ((Stmt.assign node targets value).references around) := by
  have assigned := infer_unbound_errors around valid .read value
  have each (target : Expr Node) := infer_unbound_errors around valid target.targetMode target
  rw [part_assignment, Stmt.references, unbound_errors_append, unbound_errors_flatMap, assigned]
  simp only [each]

mutual
theorem stmt_unbound_errors (around : Environment) (valid : around.table.WellFormed ⊤)
    (statement : Stmt Node) :
    unbound.part (statement.check around.table).log =
      unboundErrors (statement.references around) := by
  cases statement with
  | «variable» declaration =>
      rw [Stmt.check, Stmt.references]
      exact declaration_unbound_errors around valid .variable declaration
  | constant declaration =>
      rw [Stmt.check, Stmt.references]
      exact declaration_unbound_errors around valid .constant declaration
  | loop node condition body =>
      have asked := infer_unbound_errors around valid .read condition
      have inside := block_unbound_errors around.push valid.push body
      rw [Stmt.check, Stmt.references, Logged.log_bind, append, part_conditional,
        unbound_errors_append, asked, ← inside]
      rfl
  | branch node condition thenBlock elseBlock =>
      have asked := infer_unbound_errors around valid .read condition
      have taken := block_unbound_errors around.push valid.push thenBlock
      cases elseBlock with
      | none =>
          rw [Stmt.check, Stmt.references, Logged.log_bind, append, part_conditional,
            unbound_errors_append, asked, ← taken]
          rfl
      | some elseBlock =>
          have left : (around.afterBlock thenBlock).table.WellFormed ⊤ :=
            (block_valid valid.push thenBlock).pop
          have otherwise :=
            block_unbound_errors (around.afterBlock thenBlock).push left.push elseBlock
          rw [Stmt.check, Stmt.references, Logged.log_bind, append, Logged.log_bind, append,
            part_conditional, unbound_errors_append, unbound_errors_append, asked, ← taken,
            ← otherwise, List.append_assoc]
          rfl
  | forRange node counter domain lower upper body =>
      have first := infer_unbound_errors around.push valid.push .read lower
      have last := infer_unbound_errors around.push valid.push .read upper
      have inside := block_unbound_errors (around.push.counting counter)
        (counter_wellFormed valid counter) body
      rw [Stmt.check, Stmt.references, Logged.log_bind, append, part_check_bounds,
        unbound.part_bind_silent _ fun _ => rfl, unbound_errors_append, unbound_errors_append,
        ← first, ← last, ← inside]
      rfl
  | forSet node counter domain set body =>
      have inside := block_unbound_errors (around.push.counting counter)
        (counter_wellFormed valid counter) body
      rw [Stmt.check, Stmt.references, Logged.log_bind, append, Name.resolveIndexSet,
        part_resolve_set, unbound.part_bind_silent _ fun _ => rfl, ← inside]
      rfl
  | print node value =>
      rw [Stmt.check, Stmt.references, unbound.part_bind_silent _ fun _ => rfl, part_print]
      exact infer_unbound_errors around valid .read value
  | assign node targets value =>
      rw [Stmt.check]
      exact assignment_unbound_errors around valid node targets value
  | eval node value =>
      rw [Stmt.check, Stmt.references, unbound.part_bind_silent _ fun _ => rfl]
      exact infer_unbound_errors around valid .read value
theorem block_unbound_errors (around : Environment) (valid : around.table.WellFormed ⊤)
    (block : Block Node) :
    unbound.part (block.check around.table).log = unboundErrors (block.references around) := by
  obtain ⟨node, statements⟩ := block
  rw [Block.check, Block.references]
  exact stmts_unbound_errors around valid statements
theorem stmts_unbound_errors (around : Environment) (valid : around.table.WellFormed ⊤)
    (statements : List (Stmt Node)) :
    unbound.part (checkStmts around.table statements).log =
      unboundErrors (stmtReferences around statements) := by
  cases statements with
  | nil => rfl
  | cons statement rest =>
      have next : (around.after statement).table.WellFormed ⊤ :=
        (stmt_yields valid statement fun written _ => ENat.natCast_lt_top _).value
      have first := stmt_unbound_errors around valid statement
      have later := stmts_unbound_errors (around.after statement) next rest
      rw [checkStmts, stmtReferences, Logged.log_bind, append, unbound_errors_append, first,
        ← later]
      rfl
end

theorem definition_unbound_errors (around : Environment) (valid : around.table.WellFormed ⊤)
    (definition : Definition Node) :
    unbound.part (definition.check around.table).log =
      unboundErrors (definition.references around) := by
  cases definition with
  | element declaration => exact unbound.part_element around.table declaration
  | external declaration => exact unbound.part_external around.table declaration
  | routine declaration =>
      have inside := body_table_wellFormed valid declaration
      rw [Definition.check, part_routine]
      exact block_unbound_errors (around.inside declaration) inside declaration.body
  | constant declaration => exact declaration_unbound_errors around valid .constant declaration
  | test declaration => rfl

theorem definitions_unbound_errors (around : Environment) (valid : around.table.WellFormed ⊤)
    (definitions : List (Definition Node)) :
    unbound.part (checkDefinitions around.table definitions).log =
      unboundErrors (definitionReferences around definitions) := by
  induction definitions generalizing around with
  | nil => rfl
  | cons definition rest ih =>
      have grown := definition_yields valid definition fun written _ => ENat.natCast_lt_top _
      have first := definition_unbound_errors around valid definition
      have later := ih (around.afterDefinition definition) grown.value.valid
      rw [checkDefinitions, definitionReferences, Logged.log_bind, append, unbound_errors_append,
        first, ← later]
      rfl

theorem initial_environment_wellFormed (intrinsics : Bool) :
    (Environment.initial intrinsics).table.WellFormed ⊤ := by
  obtain ⟨table, set, valid⟩ :
      ∃ table, SymbolTable.initial intrinsics = .ok table ∧ table.WellFormed ⊤ :=
    initial_wellFormed intrinsics
  rw [Environment.initial, set]
  exact valid

theorem run_unbound_errors (program : Program Node) (intrinsics : Bool) :
    (program.run intrinsics).log.errors.filter TypeError.isUnbound =
      unboundErrors (program.references intrinsics) := by
  have checked := definitions_unbound_errors (.initial intrinsics)
    (initial_environment_wellFormed intrinsics) program.definitions
  change unbound.part (program.run intrinsics).log = _
  rw [Program.run, Logged.log_bind, append, part_registering, List.nil_append]
  exact checked

-- Each unbound name that is visited is reported once, at its own place, unless it is about to be
-- declared. The indices of a read are not visited where the base has no axes for them.
theorem unbound_reads_reported (program : Program Node) (intrinsics : Bool) :
    ∀ reference ∈ program.references intrinsics,
      reference.visited = true → reference.mode = .read → reference.isUnbound = true →
        reference.error ∈ (program.run intrinsics).log.errors := by
  intro reference member visited reading unbound
  have reported : reference.isReported = true := by
    simp [Reference.isReported, visited, reading, unbound]
  have expected : reference.error ∈ unboundErrors (program.references intrinsics) :=
    List.mem_map_of_mem (List.mem_filter.mpr ⟨member, reported⟩)
  rw [← run_unbound_errors] at expected
  exact List.mem_of_mem_filter expected

def excessIndex : Program Node :=
  let name (text : String) : Name Place := ⟨none, text⟩
  let ident (text : String) : Expr Place := .ident (name text)
  Program.numbered 0 ⟨none,
    [.routine ⟨none, .procedure, name "main", [], [],
      ⟨none,
        [.variable ⟨none, name "v", .tensor none [.range none 3] (.scalar none .float) false, none⟩,
          .print none (.read none (ident "v") [.at (ident "missing"), .slice none]),
          .print none (ident "ghost")]⟩⟩]⟩

theorem ghost_reported :
    ∃ reference ∈ excessIndex.references false, reference.name.text = "ghost" ∧
      reference.visited = true ∧ reference.mode = .read ∧ reference.isUnbound = true ∧
      reference.error ∈ (excessIndex.run false).log.errors := by
  have listed : ∃ reference ∈ excessIndex.references false, reference.name.text = "ghost" ∧
      reference.visited = true ∧ reference.mode = .read ∧ reference.isUnbound = true := by
    decide +kernel
  obtain ⟨reference, member, named, visited, reading, unbound⟩ := listed
  have reported := unbound_reads_reported excessIndex false reference member visited reading unbound
  exact ⟨reference, member, named, visited, reading, unbound, reported⟩

-- The index `missing` is unbound, is read, and is not reported: the count of indices hides it.
theorem excess_index_not_reported :
    (∃ reference ∈ excessIndex.references false, reference.name.text = "missing" ∧
        reference.mode = .read ∧ reference.isUnbound = true) ∧
      (excessIndex.run false).log.errors.map (·.fault.message) =
        ["tensor access expected 1 indices but got 2",
          "undeclared variable or constant 'ghost'"] := by
  decide +kernel

end TensorLang
