import Mathlib.Data.List.Forall2
import TensorLang.Proofs.Logged

set_option autoImplicit false

namespace TensorLang

-- What the second side still knows is what the first side knows.
def Fades {α : Type} (first second : Option α) : Prop := second = none ∨ second = first

namespace Fades

variable {α β : Type}

theorem refl (value? : Option α) : Fades value? value? := Or.inr rfl

theorem none (value? : Option α) : Fades value? none := Or.inl rfl

theorem map {first second : Option α} (faded : Fades first second) (change : α → β) :
    Fades (first.map change) (second.map change) := by
  rcases faded with rfl | rfl
  · exact none _
  · exact refl _

theorem bind {first second : Option α} (faded : Fades first second) (next : α → Option β) :
    Fades (first.bind next) (second.bind next) := by
  rcases faded with rfl | rfl
  · exact none _
  · exact refl _

end Fades

theorem rel_cases {α β : Type} {related : α → β → Prop} {first? : Option α} {second? : Option β}
    (paired : Option.Rel related first? second?) :
    (first? = none ∧ second? = none) ∨
      ∃ first second, first? = some first ∧ second? = some second ∧ related first second := by
  cases paired with
  | none => exact Or.inl ⟨rfl, rfl⟩
  | some known => exact Or.inr ⟨_, _, rfl, rfl, known⟩

namespace Logged

variable {α β γ δ : Type}

-- The second run reports nothing and adds nothing to what the first one logs.
structure Copies (agree : α → β → Prop) (first : Logged α) (second : Logged β) : Prop where
  value : agree first.value second.value
  errors : second.log.errors = []
  entries : second.log.entries.Sublist first.log.entries
  defects : second.log.defects.Sublist first.log.defects

def Follows (agree : α → β → Prop) (first : Logged α) (second : Logged β) : Prop :=
  first.log.errors = [] → first.Copies agree second

variable {agree : α → β → Prop} {settle : γ → δ → Prop}

theorem follows_bind_value {first : Logged α} {second : Logged β} {next : α → Logged γ}
    {other : β → Logged δ} (start : first.Follows agree second)
    (rest : agree first.value second.value →
      (next first.value).Follows settle (other second.value)) :
    (first >>= next).Follows settle (second >>= other) := by
  intro clean
  rw [log_bind, Log.errors_append, List.append_eq_nil_iff] at clean
  have early := start clean.1
  have late := rest early.value clean.2
  refine ⟨late.value, ?_, ?_, ?_⟩
  · rw [log_bind, Log.errors_append, early.errors, late.errors]
    rfl
  · exact early.entries.append late.entries
  · exact early.defects.append late.defects

theorem follows_bind {first : Logged α} {second : Logged β} {next : α → Logged γ}
    {other : β → Logged δ} (start : first.Follows agree second)
    (rest : ∀ value copy, agree value copy → (next value).Follows settle (other copy)) :
    (first >>= next).Follows settle (second >>= other) :=
  follows_bind_value start (rest first.value second.value)

theorem follows_self {check : Logged α} {agree : α → α → Prop}
    (agreed : agree check.value check.value) : check.Follows agree check :=
  fun clean => ⟨agreed, clean, List.Sublist.refl _, List.Sublist.refl _⟩

theorem follows_same (check : Logged α) {next : α → Logged γ} {other : α → Logged δ}
    (rest : (next check.value).Follows settle (other check.value)) :
    (check >>= next).Follows settle (check >>= other) := by
  refine follows_bind_value (follows_self (rfl : check.value = check.value)) fun _ => rest

theorem follows_pure {value : α} {copy : β} (agreed : agree value copy) :
    (Pure.pure value : Logged α).Follows agree (Pure.pure copy) :=
  fun _ => ⟨agreed, rfl, List.Sublist.refl _, List.Sublist.refl _⟩

theorem follows_silent {first : Logged α} {copy : β} (agreed : agree first.value copy) :
    first.Follows agree (Pure.pure copy) :=
  fun _ => ⟨agreed, rfl, List.nil_sublist _, List.nil_sublist _⟩

theorem follows_fail {agree : Option α → β → Prop} {span : Span} {fault : Fault}
    {second : Logged β} : (fail span fault : Logged (Option α)).Follows agree second :=
  fun clean => nomatch clean

theorem follows_report {next : Unit → Logged α} {span : Span} {fault : Fault}
    {second : Logged β} : (report span fault >>= next).Follows agree second :=
  fun clean => nomatch clean

theorem follows_mapM {items : List γ} {others : List δ} {body : γ → Logged α}
    {copyBody : δ → Logged β} (paired : List.Forall₂ settle items others)
    (each : ∀ item other, settle item other → (body item).Follows agree (copyBody other)) :
    (items.mapM body).Follows (List.Forall₂ agree) (others.mapM copyBody) := by
  induction paired with
  | nil => exact follows_pure .nil
  | cons head _ ih =>
      rw [List.mapM_cons, List.mapM_cons]
      refine follows_bind (each _ _ head) fun value copy first => ?_
      refine follows_bind ih fun values copies rest => ?_
      exact follows_pure (.cons first rest)

theorem follows_forM {items : List γ} {others : List δ} {body : γ → Logged Unit}
    {copyBody : δ → Logged Unit} (paired : List.Forall₂ settle items others)
    (each : ∀ item other, settle item other →
      (body item).Follows (fun _ _ => True) (copyBody other)) :
    (items.forM body).Follows (fun _ _ => True) (others.forM copyBody) := by
  induction paired with
  | nil => exact follows_pure trivial
  | @cons item other rest others head _ ih =>
      change (body item >>= fun _ => rest.forM body).Follows _
        (copyBody other >>= fun _ => others.forM copyBody)
      exact follows_bind (each item other head) fun _ _ _ => ih

end Logged

end TensorLang
