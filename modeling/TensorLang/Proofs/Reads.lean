import Mathlib.Data.List.Basic
import TensorLang.Proofs.Logged
import TensorLang.Proofs.Promises
import TensorLang.Proofs.Regular
import TensorLang.Typing.Expr

set_option autoImplicit false

namespace TensorLang

namespace Position

def errors : Position → List TypeError
  | .slice _ => []
  | .at visit => visit.check.log.errors

def Integral : Position → Prop
  | .slice _ => True
  | .at visit => ∃ type, visit.check.value = .one type ∧ type.isInt = true

def keep (axis : Axis Var) : Position → Option (Axis Var)
  | .slice _ => some axis
  | .at _ => none

end Position

def keptAxes (positions : List Position) (axes : List (Axis Var)) : List (Axis Var) :=
  (positions.zip axes).filterMap fun (position, axis) => position.keep axis

@[simp] theorem value_readAxis (axis : Axis Var) (leading : IndexSet Var) (position : Position) :
    (position.readAxis axis leading).value = position.keep axis := by
  cases position <;> rfl

theorem integer_checks_index (leading : IndexSet Var) (span : Span) {found : Ty}
    (integer : found.isInt = true) : (leading.checkIndex span found).log.errors = [] := by
  cases leading with
  | range size => rw [IndexSet.checkIndex, integer, Logged.errors_require, if_pos rfl]
  | dynamic => rfl
  | set members =>
      rw [IndexSet.checkIndex]
      cases members.setType with
      | error defect => rfl
      | ok type => simp [Logged.promised_ok, integer]

theorem integral_reads_axis (axis : Axis Var) (leading : IndexSet Var) {position : Position}
    (integral : position.Integral) :
    (position.readAxis axis leading).log.errors = position.errors := by
  cases position with
  | slice span => rfl
  | «at» visit =>
      obtain ⟨found, typed, integer⟩ := integral
      have checked := integer_checks_index leading visit.span integer
      simp [Position.readAxis, Visit.operand, Operand.checkIndex, typed, Outcome.one, checked,
        Position.errors]

section

variable {allowed : Var → Prop} {tensor : TensorType Var} {positions : List Position}

theorem check_read_value (regular : tensor.Regular allowed) (span : Span)
    (counts : tensor.order = positions.length) :
    (tensor.checkRead span positions).value =
      .tensor (tensor.readKeeping (keptAxes positions tensor.axes)
        (positions.getLast?.any Position.isIndex)) := by
  have axes : (tensor.axes.zip tensor.outer).map Prod.fst = tensor.axes :=
    List.map_fst_zip (Nat.le_of_eq regular.outer_length.symm)
  have kept : (positions.zip (tensor.axes.zip tensor.outer)).filterMap
      (fun step => step.1.keep step.2.1) = keptAxes positions tensor.axes := by
    calc (positions.zip (tensor.axes.zip tensor.outer)).filterMap
          (fun step => step.1.keep step.2.1)
      _ = keptAxes positions ((tensor.axes.zip tensor.outer).map Prod.fst) := by
          rw [keptAxes, List.zip_map_right, List.filterMap_map]
          rfl
      _ = keptAxes positions tensor.axes := by rw [axes]
  simp [TensorType.checkRead, counts, List.filterMap_map, kept]

theorem check_read_errors (span : Span) (counts : tensor.order = positions.length) :
    (tensor.checkRead span positions).log.errors =
      (positions.zip (tensor.axes.zip tensor.outer)).flatMap fun step =>
        (step.1.readAxis step.2.1 step.2.2).log.errors := by
  simp [TensorType.checkRead, counts]

theorem integral_read_errors (regular : tensor.Regular allowed) (span : Span)
    (counts : tensor.order = positions.length)
    (integral : ∀ position ∈ positions, position.Integral) :
    (tensor.checkRead span positions).log.errors = positions.flatMap Position.errors := by
  have steps := regular.steps_fst counts
  have silent : ∀ step ∈ positions.zip (tensor.axes.zip tensor.outer),
      (step.1.readAxis step.2.1 step.2.2).log.errors = step.1.errors := by
    intro step member
    exact integral_reads_axis _ _ (integral step.1 (List.of_mem_zip member).1)
  calc (tensor.checkRead span positions).log.errors
    _ = (positions.zip (tensor.axes.zip tensor.outer)).flatMap fun step =>
          (step.1.readAxis step.2.1 step.2.2).log.errors := check_read_errors span counts
    _ = (positions.zip (tensor.axes.zip tensor.outer)).flatMap fun step => step.1.errors :=
        List.flatMap_congr silent
    _ = ((positions.zip (tensor.axes.zip tensor.outer)).map Prod.fst).flatMap Position.errors :=
        (List.flatMap_map ..).symm
    _ = positions.flatMap Position.errors := by rw [steps]

theorem keeps_none (axis : Axis Var) {position : Position} (indexed : position.isIndex = true) :
    position.keep axis = none := by
  cases position with
  | slice span => exact nomatch indexed
  | «at» visit => rfl

theorem indexed_read_value (regular : tensor.Regular allowed) (span : Span)
    (counts : tensor.order = positions.length)
    (indexed : ∀ position ∈ positions, position.isIndex = true) :
    (tensor.checkRead span positions).value = .tensor tensor.block := by
  have kept : keptAxes positions tensor.axes = [] := by
    rw [keptAxes, List.filterMap_eq_nil_iff]
    exact fun step member => keeps_none step.2 (indexed step.1 (List.of_mem_zip member).1)
  rw [check_read_value regular span counts, kept]
  rfl

end

@[simp] theorem value_recorded (node : Node) (check : Logged Outcome) :
    (recorded node check).value = check.value := rfl

@[simp] theorem errors_recorded (node : Node) (check : Logged Outcome) :
    (recorded node check).log.errors = check.log.errors := by
  simp [recorded]

def Expr.visit (table : SymbolTable) (expression : Expr Node) : Visit :=
  ⟨expression.span, expression.infer table .read⟩

theorem visits_eq_map (table : SymbolTable) (operands : List (Expr Node)) :
    visits table operands = operands.map (Expr.visit table) := by
  induction operands with
  | nil => rfl
  | cons operand rest ih => exact congrArg (_ :: ·) ih

def Index.position (table : SymbolTable) : Index Node → Position
  | .slice node => .slice node.span
  | .at index => .at (index.visit table)

theorem positions_eq_map (table : SymbolTable) (indices : List (Index Node)) :
    positions table indices = indices.map (Index.position table) := by
  induction indices with
  | nil => rfl
  | cons index rest ih => cases index <;> exact congrArg (_ :: ·) ih

theorem positions_length (table : SymbolTable) (indices : List (Index Node)) :
    (positions table indices).length = indices.length := by
  rw [positions_eq_map, List.length_map]

theorem positions_of_indices (table : SymbolTable) (indices : List (Expr Node)) :
    positions table (indices.map .at) =
      indices.map fun index => .at ⟨index.span, index.infer table .read⟩ := by
  rw [positions_eq_map, List.map_map]
  rfl

section

variable {table : SymbolTable} {mode : Mode} {node : Node} {base : Expr Node}
  {indices : List (Index Node)} {tensor : TensorType Var}

theorem infer_read_value (typed : (base.infer table mode.ofBase).value = .tensor tensor) :
    ((Expr.read node base indices).infer table mode).value =
      (tensor.checkRead node.span (positions table indices)).value := by
  simp [Expr.infer, typed, checkRead, Outcome.tensor, Outcome.one]

theorem infer_read_errors (typed : (base.infer table mode.ofBase).value = .tensor tensor) :
    ((Expr.read node base indices).infer table mode).log.errors =
      (base.infer table mode.ofBase).log.errors ++
        (tensor.checkRead node.span (positions table indices)).log.errors := by
  simp [Expr.infer, typed, checkRead, Outcome.tensor, Outcome.one]

theorem infer_bound {name : Name Node} {symbol : Symbol} {type : Ty}
    (bound : table.symbol? name.text = some symbol) (typed : symbol.var.type? = some type) :
    ((Expr.ident name).infer table .read).value = .one type ∧
      ((Expr.ident name).infer table .read).log.errors = [] := by
  rw [Expr.infer, name.infer_promised, bound]
  simp [typed, Outcome.ofType?, Outcome.one, Mode.required, Access.allows]

end

section

variable {table : SymbolTable} {indices : List (Expr Node)}

theorem indices_indexed :
    ∀ position ∈ positions table (indices.map .at), position.isIndex = true := by
  intro position member
  rw [positions_of_indices] at member
  obtain ⟨index, _, rfl⟩ := List.mem_map.mp member
  rfl

theorem indices_integral
    (integers : ∀ index ∈ indices, ∃ type,
      (index.infer table .read).value = .one type ∧ type.isInt = true) :
    ∀ position ∈ positions table (indices.map .at), position.Integral := by
  intro position member
  rw [positions_of_indices] at member
  obtain ⟨index, indexMember, rfl⟩ := List.mem_map.mp member
  exact integers index indexMember

theorem infer_read_block (mode : Mode) {node : Node} {base : Expr Node}
    {tensor : TensorType Var} {allowed : Var → Prop} (regular : tensor.Regular allowed)
    (typed : (base.infer table mode.ofBase).value = .tensor tensor)
    (counts : tensor.order = indices.length)
    (integers : ∀ index ∈ indices, ∃ type,
      (index.infer table .read).value = .one type ∧ type.isInt = true) :
    let read := (Expr.read node base (indices.map .at)).infer table mode
    read.value = .tensor tensor.block ∧
      read.log.errors = (base.infer table mode.ofBase).log.errors ++
        indices.flatMap fun index => (index.infer table .read).log.errors := by
  have counts : tensor.order = (positions table (indices.map .at)).length := by
    rw [positions_of_indices, List.length_map, counts]
  have block := indexed_read_value regular node.span counts indices_indexed
  have silent := integral_read_errors regular node.span counts (indices_integral integers)
  refine ⟨(infer_read_value typed).trans block, ?_⟩
  rw [infer_read_errors typed, silent, positions_of_indices, List.flatMap_map]
  rfl

end

end TensorLang
