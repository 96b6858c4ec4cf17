import TensorLang.Proofs.Logged
import TensorLang.Proofs.Promises
import TensorLang.Report

set_option autoImplicit false

namespace TensorLang

structure Log.View (α : Type) where
  part : Log → List α
  empty : part .empty = []
  append : ∀ first second, part (first ++ second) = part first ++ part second
  -- Only the inference of a name may report that a variable is not bound.
  fault : ∀ span fault, (∀ name, fault ≠ .undeclared .variable name) →
    part ⟨[⟨span, fault⟩], [], []⟩ = []
  defect : ∀ defect, part ⟨[], [], [defect]⟩ = []

attribute [simp] Log.View.empty Log.View.append Log.View.fault Log.View.defect

namespace Log.View

variable {α β γ : Type} (view : Log.View α)

@[simp] theorem part_report (span : Span) {fault : Fault}
    (other : ∀ name, fault ≠ .undeclared .variable name) :
    view.part (Logged.report span fault).log = [] :=
  view.fault span fault other

@[simp] theorem part_fail (span : Span) {fault : Fault}
    (other : ∀ name, fault ≠ .undeclared .variable name) :
    view.part (Logged.fail span fault : Logged (Option β)).log = [] :=
  view.fault span fault other

@[simp] theorem part_require (holds : Bool) (span : Span) {fault : Fault}
    (other : ∀ name, fault ≠ .undeclared .variable name) :
    view.part (Logged.require holds span fault).log = [] := by
  cases holds with
  | true => exact view.empty
  | false => exact view.fault span fault other

@[simp] theorem part_promised (result : Except Defect β) :
    view.part (Logged.promised result).log = [] := by
  cases result with
  | ok value => exact view.empty
  | error defect => exact view.defect defect

theorem part_reportAll {errors : List TypeError}
    (others : ∀ error ∈ errors, ∀ name, error.fault ≠ .undeclared .variable name) :
    view.part (Logged.reportAll errors).log = [] := by
  induction errors with
  | nil => exact view.empty
  | cons error rest ih =>
      obtain ⟨first, later⟩ := List.forall_mem_cons.mp others
      have one := view.fault error.span error.fault first
      have split := view.append ⟨[error], [], []⟩ ⟨rest, [], []⟩
      exact split.trans (by rw [one]; exact ih later)

@[simp] theorem part_mapM (items : List β) (body : β → Logged γ) :
    view.part (items.mapM body).log = items.flatMap fun item => view.part (body item).log := by
  induction items with
  | nil => exact view.empty
  | cons head tail ih => simp [List.mapM_cons, ih]

theorem part_forM {items : List β} {body : β → Logged Unit}
    (none : ∀ item ∈ items, view.part (body item).log = []) :
    view.part (items.forM body).log = [] := by
  induction items with
  | nil => exact view.empty
  | cons head tail ih =>
      obtain ⟨first, later⟩ := List.forall_mem_cons.mp none
      change view.part (body head >>= fun _ => tail.forM body).log = []
      rw [Logged.log_bind, view.append, first, ih later]
      rfl

@[simp] theorem part_expect (accepts : List Ty → Bool) (cause : List Ty → Mismatch)
    (operand : Operand) : view.part (operand.expect accepts cause).log = [] := by
  simp only [Operand.expect]
  split <;> simp

@[simp] theorem part_resolve_element (table : SymbolTable) (name : Name Node) :
    view.part (name.resolveElement table).log = [] := by
  rw [name.resolve_element_promised]
  split <;> simp

@[simp] theorem part_resolve_set (table : SymbolTable) (wrong : Ty → Mismatch)
    (name : Name Node) : view.part (name.resolveSet table wrong).log = [] := by
  rw [name.resolve_set_promised]
  split
  · simp
  · split <;> simp

@[simp] theorem part_domain (table : SymbolTable) (domain : Domain Node) :
    view.part (domain.resolve table).log = [] := by
  cases domain <;> simp [Domain.resolve, Name.resolveIndexSet]

@[simp] theorem part_tensor_of (span blockSpan : Span) (column : Bool)
    (leading : List (IndexSet Var)) (block : Ty) :
    view.part (block.tensorOf span blockSpan column leading).log = [] := by
  simp only [Ty.tensorOf, TensorType.oriented]
  repeat' split
  all_goals simp

@[simp] theorem part_annotated (table : SymbolTable) (written : TypeExpr Node) :
    view.part (written.resolve table).log = [] := by
  induction written with
  | scalar node component => exact view.empty
  | element name => simp [TypeExpr.resolve]
  | set node member endpoints =>
      simp only [TypeExpr.resolve, Logged.log_bind, append, part_resolve_element, part_mapM,
        Name.resolveEndpoint, part_resolve_set]
      split <;> simp
  | tuple node member lengthNode length =>
      simp only [TypeExpr.resolve, Logged.log_bind, append, part_resolve_element]
      split <;> simp
  | tensor node domains inner column ih =>
      simp only [TypeExpr.resolve, Logged.log_bind, append, ih, part_mapM, part_domain]
      split <;> simp

@[simp] theorem part_check_fields (table : SymbolTable) (declared : List String)
    (fields : List (FieldDecl Node)) :
    view.part (checkFields table declared fields).log = [] := by
  induction fields generalizing declared with
  | nil => exact view.empty
  | cons field rest ih =>
      simp only [checkFields, Logged.log_bind, append, part_annotated]
      split
      · simp [ih]
      · simp only [Logged.log_bind, append, ih]
        split <;> simp

@[simp] theorem part_bind_slots (table : SymbolTable) (slots : List Slot) :
    view.part (bindSlots table slots).log = [] := by
  induction slots generalizing table with
  | nil => exact view.empty
  | cons slot rest ih =>
      simp only [bindSlots, Logged.log_bind, append, part_annotated]
      split <;> simp [ih]

@[simp] theorem part_registering (table : SymbolTable) (next : Except Duplicate SymbolTable) :
    view.part (table.registering next).log = [] := by
  simp [SymbolTable.registering]

@[simp] theorem part_register (table : SymbolTable) (declaration : RoutineDecl Node)
    (parameters results : List (Option Var)) :
    view.part (declaration.register table parameters results).log = [] := by
  unfold RoutineDecl.register
  dsimp only
  split
  · split <;> simp
  · exact view.empty

@[simp] theorem part_element (table : SymbolTable) (declaration : ElementDecl Node) :
    view.part (declaration.check table).log = [] := by
  simp only [ElementDecl.check, Logged.log_bind, append, part_check_fields]
  split <;> simp

@[simp] theorem part_external (table : SymbolTable) (declaration : ExternalDecl Node) :
    view.part (declaration.check table).log = [] := by
  simp only [ExternalDecl.check, Logged.log_bind, append, part_annotated]
  split <;> simp

end Log.View

end TensorLang
