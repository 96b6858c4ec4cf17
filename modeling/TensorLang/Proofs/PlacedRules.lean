import TensorLang.Proofs.Placed
import TensorLang.Typing.Stmt

set_option autoImplicit false

namespace TensorLang

open Logged

variable {place : Span → Prop}

-- The operand stands at such a place, and so do the errors inside it.
structure Visit.Placed (place : Span → Prop) (visit : Visit) : Prop where
  span : place visit.span
  check : visit.check.Placed place

def Position.Placed (place : Span → Prop) : Position → Prop
  | .slice span => place span
  | .at visit => visit.Placed place

section Operators

variable {operand left right : Operand}

theorem expect_placed (known : place operand.span) (accepts : List Ty → Bool)
    (cause : List Ty → Mismatch) : (operand.expect accepts cause).Placed place := by
  simp only [Operand.expect]
  split
  · exact placed_pure ()
  · exact placed_require known _ _

theorem numeric_placed (known : place operand.span) (side : Side) (arithmetic : Arithmetic) :
    (operand.numeric side arithmetic).Placed place := by
  simp [Operand.numeric, expect_placed known]

theorem combine_placed {span : Span} (known : place span) (arithmetic : Arithmetic)
    (left right : TensorType Var) : (arithmetic.combine span left right).Placed place := by
  cases arithmetic with
  | elementwise =>
      simp only [Arithmetic.combine]
      split <;> simp [known]
  | product =>
      rw [combine_product_promised]
      simp [known]
  | quotient =>
      simp only [Arithmetic.combine]
      split <;> simp [known]

theorem arithmetic_placed {span : Span} (known : place span) (onLeft : place left.span)
    (onRight : place right.span) (arithmetic : Arithmetic) :
    (arithmetic.check span left right).Placed place := by
  simp only [Arithmetic.check, placed_bind]
  refine ⟨numeric_placed onLeft .left arithmetic, numeric_placed onRight .right arithmetic, ?_⟩
  split
  · exact combine_placed known arithmetic _ _
  · exact placed_pure _

theorem binary_placed {span : Span} (known : place span) (onLeft : place left.span)
    (onRight : place right.span) (operator : BinaryOp) :
    (operator.check span left right).Placed place := by
  cases operator with
  | or | and | xor =>
      simp [BinaryOp.check, checkLogic, expect_placed onLeft, expect_placed onRight]
  | add | sub | elementMul | elementDiv | mul | div =>
      exact arithmetic_placed known onLeft onRight _
  | power => exact (placed_fail span _).mpr known

theorem unary_placed (known : place operand.span) (operator : UnaryOp) :
    (operator.check operand).Placed place := by
  cases operator <;> simp [UnaryOp.check, expect_placed known]

theorem transpose_placed (known : place operand.span) :
    (checkTranspose operand).Placed place := by
  simp [check_transpose_promised, expect_placed known]

theorem compare_with_placed (known : place operand.span) (first? : Outcome) :
    (operand.compareWith first?).Placed place := by
  simp only [Operand.compareWith]
  split
  · exact placed_pure _
  · split
    · split <;> simp [placed_require known]
    · simp [known]

end Operators

theorem operand_placed {visit : Visit} (known : visit.Placed place) :
    visit.operand.Placed place := by
  simp [Visit.operand, known.check]

theorem compare_all_placed {visits : List Visit} (each : ∀ visit ∈ visits, visit.Placed place)
    (first? : Outcome) : (compareAll first? visits).Placed place := by
  induction visits generalizing first? with
  | nil => exact placed_pure _
  | cons visit rest ih =>
      obtain ⟨head, tail⟩ := List.forall_mem_cons.mp each
      simp only [compareAll, placed_bind]
      exact ⟨operand_placed head, compare_with_placed head.span first?, ih tail _⟩

theorem comparison_placed {visits : List Visit} (each : ∀ visit ∈ visits, visit.Placed place) :
    (checkComparison visits).Placed place := by
  simp [checkComparison, compare_all_placed each]

section Calls

variable (table : SymbolTable)

theorem argument_placed {operand : Operand} (known : place operand.span) :
    operand.argument.Placed place := by
  simp only [Operand.argument]
  split <;> simp [known]

theorem check_arguments_placed (routine : Routine) {span : Span} (known : place span)
    {operands : List Operand} (each : ∀ operand ∈ operands, place operand.span) :
    (routine.checkArguments span operands).Placed place := by
  simp only [Routine.checkArguments]
  split
  · rw [placed_forM]
    intro ⟨operand, parameter⟩ member
    have here : place operand.span := each operand (List.of_mem_zip member).1
    simp only [passArgument, placed_bind]
    refine ⟨argument_placed here, ?_⟩
    split
    · exact placed_require here _ _
    · exact placed_pure ()
  · exact placed_require known _ _

theorem resolve_routine_placed {name : Name Node} (known : place name.node.span) :
    (name.resolveRoutine table).Placed place := by
  rw [name.resolve_routine_promised]
  split <;> simp [known]

theorem call_placed {span : Span} (known : place span) {name : Name Node}
    (named : place name.node.span) {arguments : List Visit}
    (each : ∀ visit ∈ arguments, visit.Placed place) :
    (checkCall table span name arguments).Placed place := by
  have visited : ∀ visit ∈ arguments, visit.operand.Placed place :=
    fun visit listed => operand_placed (each visit listed)
  have operands : ∀ operand ∈ (arguments.mapM Visit.operand).value, place operand.span := by
    rw [value_mapM]
    exact List.forall_mem_map.mpr fun visit listed => (each visit listed).span
  simp only [checkCall, placed_bind, placed_mapM]
  refine ⟨visited, resolve_routine_placed table named, ?_⟩
  split
  · exact placed_pure _
  · simp only [placed_bind, placed_pure, and_true]
    exact check_arguments_placed _ known operands

theorem neighbors_placed (endpoint : Var) (endpoints : List Var) :
    (neighbors endpoint endpoints).Placed place := by
  simp only [neighbors, placed_bind, placed_promised, true_and]
  split
  · exact placed_pure _
  · split <;> simp

theorem map_arguments_placed (count : Nat) (span : Span) (partials : List MapArgument)
    (member : Ty) (endpoints : List Var) :
    (mapArguments count span partials member endpoints).Placed place := by
  simp only [mapArguments]
  cases endpoints with
  | nil => exact placed_pure _
  | cons endpoint rest =>
      dsimp only
      split <;> simp [neighbors_placed]

-- The member and the neighbors that a map passes stand for the set that it goes over.
theorem map_arguments_stand (count : Nat) {span : Span} (known : place span)
    {partials : List MapArgument} (each : ∀ argument ∈ partials, place argument.span)
    (member : Ty) (endpoints : List Var) :
    ∀ argument ∈ (mapArguments count span partials member endpoints).value,
      place argument.span := by
  have withMember : ∀ argument ∈ partials ++ [⟨span, some member⟩],
      place argument.span :=
    List.forall_mem_append.mpr ⟨each, List.forall_mem_singleton.mpr known⟩
  simp only [mapArguments]
  cases endpoints with
  | nil => exact withMember
  | cons endpoint rest =>
      dsimp only
      split
      · exact withMember
      · exact List.forall_mem_append.mpr ⟨withMember, List.forall_mem_singleton.mpr known⟩

theorem check_map_arguments_placed (routine : Routine) {span : Span} (known : place span)
    {arguments : List MapArgument} (each : ∀ argument ∈ arguments, place argument.span) :
    (routine.checkMapArguments span arguments).Placed place := by
  simp only [Routine.checkMapArguments]
  split
  · rw [placed_forM]
    intro ⟨argument, parameter⟩ member
    have here : place argument.span := each argument (List.of_mem_zip member).1
    simp only [Routine.passMapArgument]
    split
    · exact placed_require here _ _
    · exact placed_pure ()
  · exact (placed_report span _).mpr known

theorem map_placed {span : Span} (known : place span) {name target : Name Node}
    (named : place name.node.span) (targeted : place target.node.span) {partials : List Visit}
    (each : ∀ visit ∈ partials, visit.Placed place) :
    (checkMap table span name partials target).Placed place := by
  have visited : ∀ visit ∈ partials, visit.mapArgument.Placed place := by
    intro visit listed
    have here := each visit listed
    simp only [Visit.mapArgument, placed_bind, placed_pure, and_true]
    exact ⟨operand_placed here, argument_placed here.span⟩
  have arguments : ∀ argument ∈ (partials.mapM Visit.mapArgument).value, place argument.span := by
    rw [value_mapM]
    exact List.forall_mem_map.mpr fun visit listed => (each visit listed).span
  simp only [checkMap, placed_bind, placed_mapM]
  refine ⟨visited, resolve_routine_placed table named, resolve_set_placed table _ targeted, ?_⟩
  split
  · exact placed_pure _
  · exact placed_pure _
  · simp only [placed_bind, placed_pure, and_true, Routine.checkOver, placed_promised, true_and]
    split
    · exact placed_pure ()
    · simp only [placed_bind]
      exact ⟨map_arguments_placed _ _ _ _ _, check_map_arguments_placed _ known
        (map_arguments_stand _ targeted arguments _ _)⟩

end Calls

section Reads

theorem check_index_placed {operand : Operand} (known : place operand.span)
    (leading : IndexSet Var) : (operand.checkIndex leading).Placed place := by
  simp only [Operand.checkIndex]
  split
  · exact placed_pure ()
  · cases leading with
    | range size => exact placed_require known _ _
    | dynamic => exact placed_pure ()
    | set members =>
        simp only [IndexSet.checkIndex, placed_bind, placed_promised, true_and]
        split
        · exact placed_pure ()
        · exact placed_require known _ _
  · simp [known]
  · simp [known]

theorem read_axis_placed {position : Position} (known : position.Placed place)
    (axis : Axis Var) (leading : IndexSet Var) :
    (position.readAxis axis leading).Placed place := by
  cases position with
  | slice span => exact placed_pure _
  | «at» visit =>
      simp only [Position.readAxis, placed_bind, placed_pure, and_true]
      exact ⟨operand_placed known, check_index_placed known.span leading⟩

theorem tensor_read_placed (tensor : TensorType Var) {span : Span} (known : place span)
    {positions : List Position} (each : ∀ position ∈ positions, position.Placed place) :
    (tensor.checkRead span positions).Placed place := by
  simp only [TensorType.checkRead]
  split
  · simp only [placed_bind, placed_mapM, placed_pure, and_true]
    rintro ⟨position, axis, leading⟩ member
    exact read_axis_placed (each position (List.of_mem_zip member).1) axis leading
  · exact (placed_fail span _).mpr known

theorem tuple_read_placed {span : Span} (known : place span) {positions : List Position}
    (each : ∀ position ∈ positions, position.Placed place) :
    (checkTupleRead span positions).Placed place := by
  simp only [checkTupleRead]
  split
  · rename_i visit
    have here : visit.Placed place := each (.at visit) (List.mem_singleton_self _)
    simp only [placed_bind]
    exact ⟨operand_placed here, expect_placed here.span _ _⟩
  · rename_i sliced
    exact (placed_report sliced _).mpr (each (.slice sliced) (List.mem_singleton_self _))
  · exact (placed_report span _).mpr known

theorem read_placed {span : Span} (known : place span) {base : Operand} (onBase : place base.span)
    {positions : List Position} (each : ∀ position ∈ positions, position.Placed place) :
    (checkRead span base positions).Placed place := by
  simp only [checkRead]
  split
  · exact placed_pure _
  · exact tensor_read_placed _ known each
  · simp [tuple_read_placed known each]
  · simp [onBase]
  · simp [onBase]

theorem field_name_placed (record : Element) {name : Name Node} (known : place name.node.span) :
    (record.checkField name).Placed place := by
  simp only [Element.checkField]
  split <;> simp [known]

theorem of_members_placed (table : SymbolTable) {span : Span} (known : place span)
    (set? : Option (Name Node)) (field : Field) :
    (field.ofMembers table span set?).Placed place := by
  simp only [Field.ofMembers]
  split
  · cases set? <;> simp [leadingSet]
  · exact (placed_fail span _).mpr known

theorem field_placed (table : SymbolTable) {span : Span} (known : place span) {base : Operand}
    (onBase : place base.span) (set? : Option (Name Node)) {name : Name Node}
    (named : place name.node.span) : (checkField table span base set? name).Placed place := by
  simp only [checkField]
  split
  · exact placed_pure _
  · simp [field_name_placed _ named]
  · simp only [placed_bind, placed_promised, true_and]
    split
    · exact placed_pure _
    · simp only [placed_bind]
      refine ⟨field_name_placed _ named, ?_⟩
      split
      · exact placed_pure _
      · exact of_members_placed table known set? _
  · simp [onBase]
  · simp [onBase]

end Reads

theorem name_infer_placed (table : SymbolTable) (mode : Mode) {name : Name Node}
    (known : place name.node.span) : (name.infer table mode).Placed place := by
  rw [name.infer_promised]
  split
  · split <;> simp [known]
  · simp [placed_require known]

theorem dense_infer_placed {literal : Dense Node} (known : place literal.node.span) :
    literal.infer.Placed place := by
  simp only [Dense.infer]
  split
  · simp [known]
  · split <;> simp [known]

@[simp] theorem recorded_placed (node : Node) (check : Logged Outcome) :
    (recorded node check).Placed place ↔ check.Placed place := by
  simp [recorded]

end TensorLang
