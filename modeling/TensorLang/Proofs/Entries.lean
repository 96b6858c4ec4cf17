import TensorLang.Proofs.RuleViews

set_option autoImplicit false

namespace TensorLang

def Log.View.entries : Log.View Entry where
  part := Log.entries
  empty := rfl
  append _ _ := rfl
  fault _ _ _ := rfl
  defect _ := rfl

def Position.entries : Position → List Entry
  | .slice _ => []
  | .at visit => visit.check.log.entries

theorem entries_ofPosition : Log.View.entries.ofPosition = Position.entries := by
  funext position
  cases position <;> rfl

@[simp] theorem expect_entries (accepts : List Ty → Bool) (cause : List Ty → Mismatch)
    (operand : Operand) : (operand.expect accepts cause).log.entries = [] :=
  Log.View.entries.part_expect accepts cause operand

@[simp] theorem resolve_set_entries (table : SymbolTable) (wrong : Ty → Mismatch)
    (name : Name Node) : (name.resolveSet table wrong).log.entries = [] :=
  Log.View.entries.part_resolve_set table wrong name

@[simp] theorem bind_slots_entries (table : SymbolTable) (slots : List Slot) :
    (bindSlots table slots).log.entries = [] :=
  Log.View.entries.part_bind_slots table slots

@[simp] theorem register_entries (table : SymbolTable) (declaration : RoutineDecl Node)
    (parameters results : List (Option Var)) :
    (declaration.register table parameters results).log.entries = [] :=
  Log.View.entries.part_register table declaration parameters results

@[simp] theorem element_entries (table : SymbolTable) (declaration : ElementDecl Node) :
    (declaration.check table).log.entries = [] :=
  Log.View.entries.part_element table declaration

@[simp] theorem external_entries (table : SymbolTable) (declaration : ExternalDecl Node) :
    (declaration.check table).log.entries = [] :=
  Log.View.entries.part_external table declaration

theorem name_infer_entries (table : SymbolTable) (mode : Mode) (name : Name Node) :
    (name.infer table mode).log.entries = [] := by
  rw [name.infer_promised]
  split
  · split <;> rfl
  · rfl

end TensorLang
