import TensorLang.Proofs.Registries
import TensorLang.Proofs.Views
import TensorLang.Proofs.WellFormed

set_option autoImplicit false

namespace TensorLang

def Outcome.takesPositions (count : Nat) : Outcome → Bool
  | some [.tensor shape] => shape.order == count
  | some [.tuple ..] => count == 1
  | _ => false

theorem target_error_other {target : Target} {value : Ty} {error : TypeError}
    (found : target.error? value = some error) (name : String) :
    error.fault ≠ .undeclared .variable name := by
  simp only [Target.error?] at found
  cases known : target.type? with
  | none =>
      rw [known] at found
      cases found
  | some type =>
      rw [known] at found
      by_cases taken : type.canBecome value = true
      · simp [taken] at found
      · have same : error = ⟨target.span, .mismatch (.assigned value type)⟩ := by
          simpa [taken] using found.symm
        simp [same]

theorem assignment_errors_other {span : Span} {targets : List Target} {values : List Ty}
    {error : TypeError} (member : error ∈ assignmentErrors span targets values) (name : String) :
    error.fault ≠ .undeclared .variable name := by
  simp only [assignmentErrors] at member
  by_cases counts : values.length = targets.length
  · rw [if_pos counts] at member
    obtain ⟨pair, _, found⟩ := List.mem_filterMap.mp member
    exact target_error_other found name
  · rw [if_neg counts] at member
    rw [List.mem_singleton.mp member]
    simp

namespace Log.View

variable {α : Type} (view : Log.View α)

@[simp] theorem part_numeric (side : Side) (arithmetic : Arithmetic) (operand : Operand) :
    view.part (operand.numeric side arithmetic).log = [] := by
  simp [Operand.numeric]

@[simp] theorem part_combine (arithmetic : Arithmetic) (span : Span)
    (left right : TensorType Var) :
    view.part (arithmetic.combine span left right).log = [] := by
  cases arithmetic with
  | elementwise =>
      unfold Arithmetic.combine
      dsimp only
      split <;> simp
  | product =>
      rw [combine_product_promised, Logged.log_bind, view.append, view.part_reportAll]
      · exact view.empty
      · intro error member
        obtain ⟨fault, _, rfl⟩ := List.mem_map.mp member
        simp
  | quotient =>
      unfold Arithmetic.combine
      dsimp only
      split <;> simp

@[simp] theorem part_arithmetic (arithmetic : Arithmetic) (span : Span) (left right : Operand) :
    view.part (arithmetic.check span left right).log = [] := by
  simp only [Arithmetic.check, Logged.log_bind, append, part_numeric]
  split <;> simp

@[simp] theorem part_binary (operator : BinaryOp) (span : Span) (left right : Operand) :
    view.part (operator.check span left right).log = [] := by
  cases operator <;> simp [BinaryOp.check, checkLogic]

@[simp] theorem part_unary (operator : UnaryOp) (operand : Operand) :
    view.part (operator.check operand).log = [] := by
  cases operator <;> simp [UnaryOp.check]

@[simp] theorem part_transpose (operand : Operand) :
    view.part (checkTranspose operand).log = [] := by
  simp [check_transpose_promised]

@[simp] theorem part_operand (visit : Visit) :
    view.part visit.operand.log = view.part visit.check.log := by
  simp [Visit.operand]

@[simp] theorem part_compare_with (first? : Outcome) (operand : Operand) :
    view.part (operand.compareWith first?).log = [] := by
  simp only [Operand.compareWith]
  repeat' split
  all_goals simp

@[simp] theorem part_compare_all (first? : Outcome) (visits : List Visit) :
    view.part (compareAll first? visits).log =
      visits.flatMap fun visit => view.part visit.check.log := by
  induction visits generalizing first? with
  | nil => exact view.empty
  | cons visit rest ih => simp [compareAll, ih]

@[simp] theorem part_comparison (visits : List Visit) :
    view.part (checkComparison visits).log =
      visits.flatMap fun visit => view.part visit.check.log := by
  simp [checkComparison]

@[simp] theorem part_argument (operand : Operand) : view.part operand.argument.log = [] := by
  simp only [Operand.argument]
  split <;> simp

@[simp] theorem part_check_arguments (routine : Routine) (span : Span)
    (operands : List Operand) :
    view.part (routine.checkArguments span operands).log = [] := by
  simp only [Routine.checkArguments]
  split
  · refine view.part_forM fun item _ => ?_
    simp only [passArgument, Logged.log_bind, append, part_argument]
    split <;> simp
  · simp

@[simp] theorem part_resolve_routine (table : SymbolTable) (name : Name Node) :
    view.part (name.resolveRoutine table).log = [] := by
  rw [name.resolve_routine_promised]
  split <;> simp

@[simp] theorem part_call (table : SymbolTable) (span : Span) (name : Name Node)
    (arguments : List Visit) :
    view.part (checkCall table span name arguments).log =
      arguments.flatMap fun visit => view.part visit.check.log := by
  simp only [checkCall, Logged.log_bind, append, part_mapM, part_operand, part_resolve_routine]
  split <;> simp

@[simp] theorem part_map_argument (visit : Visit) :
    view.part visit.mapArgument.log = view.part visit.check.log := by
  simp [Visit.mapArgument]

@[simp] theorem part_neighbors (endpoint : Var) (endpoints : List Var) :
    view.part (neighbors endpoint endpoints).log = [] := by
  simp only [neighbors, Logged.log_bind, append, part_promised]
  split
  · simp
  · split <;> simp

@[simp] theorem part_map_arguments (count : Nat) (span : Span) (partials : List MapArgument)
    (member : Ty) (endpoints : List Var) :
    view.part (mapArguments count span partials member endpoints).log = [] := by
  simp only [mapArguments]
  cases endpoints with
  | nil => exact view.empty
  | cons endpoint rest =>
      dsimp only
      split <;> simp

@[simp] theorem part_check_map_arguments (routine : Routine) (span : Span)
    (arguments : List MapArgument) :
    view.part (routine.checkMapArguments span arguments).log = [] := by
  simp only [Routine.checkMapArguments]
  split
  · refine view.part_forM fun ⟨argument, parameter⟩ _ => ?_
    unfold Routine.passMapArgument
    dsimp only
    split <;> simp
  · simp

@[simp] theorem part_check_over (routine : Routine) (span targetSpan : Span)
    (partials : List MapArgument) (target : Var) :
    view.part (routine.checkOver span targetSpan partials target).log = [] := by
  simp only [Routine.checkOver, Logged.log_bind, append, part_promised]
  split <;> simp

@[simp] theorem part_map (table : SymbolTable) (span : Span) (name : Name Node)
    (partials : List Visit) (target : Name Node) :
    view.part (checkMap table span name partials target).log =
      partials.flatMap fun visit => view.part visit.check.log := by
  simp only [checkMap, Logged.log_bind, append, part_mapM, part_map_argument,
    part_resolve_routine, part_resolve_set]
  split <;> simp

@[simp] theorem part_check_index (leading : IndexSet Var) (operand : Operand) :
    view.part (operand.checkIndex leading).log = [] := by
  simp only [Operand.checkIndex]
  split
  · simp
  · cases leading with
    | range size => simp [IndexSet.checkIndex]
    | dynamic => exact view.empty
    | set members =>
        simp only [IndexSet.checkIndex, Logged.log_bind, append, part_promised]
        split <;> simp
  · simp
  · simp

def ofPosition : Position → List α
  | .slice _ => []
  | .at visit => view.part visit.check.log

@[simp] theorem part_read_axis (axis : Axis Var) (leading : IndexSet Var) (position : Position) :
    view.part (position.readAxis axis leading).log = view.ofPosition position := by
  cases position with
  | slice span => exact view.empty
  | «at» visit => simp [Position.readAxis, ofPosition]

theorem part_tensor_read {allowed : Var → Prop} {tensor : TensorType Var}
    (regular : tensor.Regular allowed) (span : Span) (positions : List Position) :
    view.part (tensor.checkRead span positions).log =
      if tensor.order = positions.length then positions.flatMap view.ofPosition else [] := by
  simp only [TensorType.checkRead]
  by_cases counts : tensor.order = positions.length
  · rw [if_pos counts, if_pos counts]
    have visited := congrArg (List.flatMap view.ofPosition) (regular.steps_fst counts)
    rw [List.flatMap_map] at visited
    simpa using visited
  · rw [if_neg counts, if_neg counts]
    exact view.part_fail span (by simp)

theorem part_tuple_read (span : Span) (positions : List Position) :
    view.part (checkTupleRead span positions).log =
      if positions.length = 1 then positions.flatMap view.ofPosition else [] := by
  match positions with
  | [.at visit] => simp [checkTupleRead, ofPosition]
  | [.slice span] => simp [checkTupleRead, ofPosition]
  | [] => simp [checkTupleRead]
  | first :: second :: rest => cases first <;> simp [checkTupleRead]

-- A read visits all of its positions, or none.
theorem part_read {elements : List Element} {limit : ℕ∞} (span baseSpan : Span) {types? : Outcome}
    (valid : types?.WellFormed elements limit) (positions : List Position) :
    view.part (checkRead span ⟨baseSpan, types?⟩ positions).log =
      if types?.takesPositions positions.length then positions.flatMap view.ofPosition
      else [] := by
  match types? with
  | none => exact view.empty
  | some [.tensor shape] =>
      have regular := Ty.wellFormed_tensor.mp (valid.single rfl)
      have read := view.part_tensor_read regular span positions
      simpa [checkRead, Outcome.takesPositions] using read
  | some [.tuple member length] =>
      have read := view.part_tuple_read span positions
      simpa [checkRead, Outcome.takesPositions] using read
  | some [.set ..] | some [.element _] | some [] => exact view.part_fail baseSpan (by simp)
  | some (first :: second :: rest) => cases first <;> exact view.part_fail baseSpan (by simp)

theorem zip_sublist {β : Type} (positions : List Position) (others : List β) :
    ((positions.zip others).flatMap fun step => view.ofPosition step.1).Sublist
      (positions.flatMap view.ofPosition) := by
  induction positions generalizing others with
  | nil => exact List.nil_sublist _
  | cons position rest ih =>
      cases others with
      | nil => exact List.nil_sublist _
      | cons other later => exact (List.Sublist.refl _).append (ih later)

theorem part_read_sublist (span : Span) (base : Operand) (positions : List Position) :
    (view.part (checkRead span base positions).log).Sublist
      (positions.flatMap view.ofPosition) := by
  simp only [checkRead]
  split
  · rw [Logged.log_pure, view.empty]
    exact List.nil_sublist _
  · simp only [TensorType.checkRead]
    split
    · simpa using view.zip_sublist positions _
    · rw [view.part_fail span (by simp)]
      exact List.nil_sublist _
  · rw [Logged.log_bind, view.append, view.part_tuple_read, Logged.log_pure, view.empty,
      List.append_nil]
    split
    · exact List.Sublist.refl _
    · exact List.nil_sublist _
  · rw [view.part_fail _ (by simp)]
    exact List.nil_sublist _
  · rw [view.part_fail _ (by simp)]
    exact List.nil_sublist _

@[simp] theorem part_leading_set (table : SymbolTable) (set? : Option (Name Node)) :
    view.part (leadingSet table set?).log = [] := by
  cases set? <;> simp [leadingSet]

@[simp] theorem part_check_field_name (record : Element) (name : Name Node) :
    view.part (record.checkField name).log = [] := by
  simp only [Element.checkField]
  split <;> simp

@[simp] theorem part_of_members (table : SymbolTable) (span : Span)
    (set? : Option (Name Node)) (field : Field) :
    view.part (field.ofMembers table span set?).log = [] := by
  simp only [Field.ofMembers]
  split <;> simp

@[simp] theorem part_field (table : SymbolTable) (span : Span) (base : Operand)
    (set? : Option (Name Node)) (name : Name Node) :
    view.part (checkField table span base set? name).log = [] := by
  simp only [checkField]
  split
  · simp
  · simp
  · simp only [Logged.log_bind, append, part_promised]
    split
    · simp
    · simp only [Logged.log_bind, append, part_check_field_name]
      split <;> simp
  · simp
  · simp

@[simp] theorem part_dense (literal : Dense Node) : view.part literal.infer.log = [] := by
  simp only [Dense.infer]
  split
  · simp
  · split <;> simp

theorem part_bind_silent {β γ : Type} (first : Logged β) {next : β → Logged γ}
    (silent : ∀ value, view.part (next value).log = []) :
    view.part (first >>= next).log = view.part first.log := by
  rw [Logged.log_bind, view.append, silent, List.append_nil]

@[simp] theorem part_check_value (constancy : Constancy) (span : Span) (declared? : Option Ty)
    (found? : Outcome) : view.part (constancy.checkValue span declared? found?).log = [] := by
  simp only [Constancy.checkValue]
  split <;> simp

theorem part_declaration (table : SymbolTable) (constancy : Constancy)
    (declaration : Declaration Node) :
    view.part (declaration.check table constancy).log =
      view.part (Expr.inferValue table declaration.value).log := by
  rw [Declaration.check, Logged.log_bind, view.append, part_annotated, List.nil_append]
  apply view.part_bind_silent
  intro found?
  dsimp only
  rw [table.binds_typed_promised, pure_bind]
  split <;> simp

theorem part_check_targets (table : SymbolTable) (span : Span) (targets : List (Expr Node))
    (value : Expr Node) :
    view.part (checkTargets table span targets value).log =
      view.part (value.infer table .read).log ++
        targets.flatMap fun target => view.part (target.infer table target.targetMode).log := by
  rw [checkTargets, Logged.log_bind, view.append, Logged.log_bind, view.append, part_mapM,
    view.part_bind_silent, view.part_reportAll, List.append_nil]
  · simp [Expr.checkTarget]
  · intro error member
    cases values : (value.infer table .read).value with
    | none =>
        rw [values] at member
        cases member
    | some types =>
        rw [values] at member
        exact assignment_errors_other member
  · exact fun _ => view.empty

@[simp] theorem part_assignment (table : SymbolTable) (span : Span) (targets : List (Expr Node))
    (value : Expr Node) :
    view.part (checkAssignment table span targets value).log =
      view.part (value.infer table .read).log ++
        targets.flatMap fun target => view.part (target.infer table target.targetMode).log := by
  rw [checkAssignment, view.part_bind_silent _ fun _ => view.empty, part_check_targets]

theorem part_check_bounds (table : SymbolTable) (lower upper : Expr Node) :
    view.part (checkBounds table lower upper).log =
      view.part (lower.infer table .read).log ++ view.part (upper.infer table .read).log := by
  simp [checkBounds, Operand.expectBound]

-- A condition is judged after the blocks that depend on it, which contributes nothing.
theorem part_conditional (block : Logged SymbolTable) (operand : Operand) :
    view.part (do
      let table ← block
      operand.expectCondition
      return table.pop : Logged SymbolTable).log = view.part block.log := by
  simp [Operand.expectCondition]

theorem part_print (table : SymbolTable) (value : Expr Node) :
    view.part (checkPrint table value).log = view.part (value.infer table .read).log := by
  simp [checkPrint]

theorem part_routine (table : SymbolTable) (declaration : RoutineDecl Node) :
    view.part (declaration.check table).log =
      view.part (declaration.body.check (declaration.bodyTable table)).log := by
  rw [RoutineDecl.check, Logged.log_bind, view.append, part_bind_slots, List.nil_append,
    Logged.log_bind, view.append, part_bind_slots, List.nil_append]
  exact view.part_bind_silent _ fun inner => view.part_register inner.pop declaration _ _

end Log.View

end TensorLang
