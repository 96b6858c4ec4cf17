import TensorLang.Fault.Basic
import TensorLang.Fault.Defect

set_option autoImplicit false

namespace TensorLang

structure Entry where
  id : Nat
  types : List Ty

@[ext]
structure Log where
  errors : List TypeError
  entries : List Entry
  defects : List Defect

namespace Log

def empty : Log := ⟨[], [], []⟩

instance : Append Log where
  append first second :=
    ⟨first.errors ++ second.errors, first.entries ++ second.entries,
      first.defects ++ second.defects⟩

theorem errors_append (first second : Log) :
    (first ++ second).errors = first.errors ++ second.errors := rfl

theorem entries_append (first second : Log) :
    (first ++ second).entries = first.entries ++ second.entries := rfl

theorem defects_append (first second : Log) :
    (first ++ second).defects = first.defects ++ second.defects := rfl

theorem append_empty (log : Log) : log ++ empty = log := by
  ext1 <;> exact List.append_nil _

theorem append_assoc (first second third : Log) :
    first ++ second ++ third = first ++ (second ++ third) := by
  ext1 <;> exact List.append_assoc _ _ _

end Log

structure Logged (α : Type) where
  value : α
  log : Log

namespace Logged

variable {α β : Type}

def pure (value : α) : Logged α := ⟨value, .empty⟩

def bind (first : Logged α) (next : α → Logged β) : Logged β :=
  ⟨(next first.value).value, first.log ++ (next first.value).log⟩

instance : Monad Logged where
  pure := pure
  bind := bind

instance : LawfulMonad Logged := LawfulMonad.mk' Logged
  (fun ⟨_, log⟩ => congrArg (Logged.mk _) log.append_empty)
  (fun _ _ => rfl)
  (fun _ _ _ => congrArg (Logged.mk _) (Log.append_assoc _ _ _))

@[simp] theorem value_pure (value : α) : (Pure.pure value : Logged α).value = value := rfl

@[simp] theorem log_pure (value : α) : (Pure.pure value : Logged α).log = .empty := rfl

@[simp] theorem value_bind (first : Logged α) (next : α → Logged β) :
    (first >>= next).value = (next first.value).value := rfl

@[simp] theorem log_bind (first : Logged α) (next : α → Logged β) :
    (first >>= next).log = first.log ++ (next first.value).log := rfl

@[simp] theorem value_map (change : α → β) (first : Logged α) :
    (change <$> first).value = change first.value := rfl

@[simp] theorem log_map (change : α → β) (first : Logged α) :
    (change <$> first).log = first.log := Log.append_empty _

def reportAll (errors : List TypeError) : Logged Unit := ⟨(), ⟨errors, [], []⟩⟩

def report (span : Span) (fault : Fault) : Logged Unit := reportAll [⟨span, fault⟩]

def fail (span : Span) (fault : Fault) : Logged (Option α) := ⟨none, ⟨[⟨span, fault⟩], [], []⟩⟩

def require (holds : Bool) (span : Span) (fault : Fault) : Logged Unit :=
  reportAll (if holds then [] else [⟨span, fault⟩])

def record (id : Nat) (types? : Option (List Ty)) : Logged Unit :=
  ⟨(), ⟨[], types?.toList.map (⟨id, ·⟩), []⟩⟩

def promised : Except Defect α → Logged (Option α)
  | .ok value => Pure.pure (some value)
  | .error defect => ⟨none, ⟨[], [], [defect]⟩⟩

end Logged

end TensorLang
