import TensorLang.Typing.Logged

set_option autoImplicit false

namespace TensorLang

structure Log.Rule where
  error : TypeError → Prop
  entry : Entry → Prop
  defect : Defect → Prop

namespace Log

structure Obeys (rule : Rule) (log : Log) : Prop where
  errors : ∀ error ∈ log.errors, rule.error error
  entries : ∀ entry ∈ log.entries, rule.entry entry
  defects : ∀ defect ∈ log.defects, rule.defect defect

theorem empty_obeys (rule : Rule) : Log.empty.Obeys rule :=
  ⟨fun _ member => (nomatch member), fun _ member => (nomatch member),
    fun _ member => (nomatch member)⟩

theorem append_obeys (rule : Rule) (first second : Log) (left : first.Obeys rule)
    (right : second.Obeys rule) : (first ++ second).Obeys rule := by
  refine ⟨?_, ?_, ?_⟩
  · intro error member
    rcases List.mem_append.mp member with early | late
    · exact left.errors error early
    · exact right.errors error late
  · intro entry member
    rcases List.mem_append.mp member with early | late
    · exact left.entries entry early
    · exact right.entries entry late
  · intro defect member
    rcases List.mem_append.mp member with early | late
    · exact left.defects defect early
    · exact right.defects defect late

attribute [simp] errors_append entries_append defects_append

@[simp] theorem errors_empty : empty.errors = [] := rfl

@[simp] theorem entries_empty : empty.entries = [] := rfl

@[simp] theorem defects_empty : empty.defects = [] := rfl

end Log

namespace Logged

variable {α β : Type} {rule : Log.Rule} {good : α → Prop} {fine : β → Prop}

structure Yields (rule : Log.Rule) (good : α → Prop) (check : Logged α) : Prop where
  value : good check.value
  log : check.log.Obeys rule

theorem yields_pure {value : α} (known : good value) :
    (Pure.pure value : Logged α).Yields rule good :=
  ⟨known, Log.empty_obeys rule⟩

theorem yields_bind {first : Logged α} {next : α → Logged β} (start : first.Yields rule good)
    (rest : ∀ value, good value → (next value).Yields rule fine) :
    (first >>= next).Yields rule fine := by
  have last := rest first.value start.value
  exact ⟨last.value, Log.append_obeys rule _ _ start.log last.log⟩

theorem yields_bind_value {first : Logged α} {next : α → Logged β}
    (start : first.Yields rule good) (rest : (next first.value).Yields rule fine) :
    (first >>= next).Yields rule fine :=
  ⟨rest.value, Log.append_obeys rule _ _ start.log rest.log⟩

theorem bind_known {check : Logged α} {value : α} (known : check.value = value)
    (next : α → Logged β) : check >>= next = check >>= fun _ => next value := by
  subst known
  rfl

theorem Yields.weaken {better : α → Prop} {check : Logged α} (known : check.Yields rule better)
    (weaker : ∀ value, better value → good value) : check.Yields rule good :=
  ⟨weaker check.value known.value, known.log⟩

@[simp] theorem value_mapM (items : List β) (body : β → Logged α) :
    (items.mapM body).value = items.map fun item => (body item).value := by
  induction items with
  | nil => rfl
  | cons head tail ih =>
      rw [List.mapM_cons, List.map_cons]
      exact congrArg ((body head).value :: ·) ih

@[simp] theorem errors_mapM (items : List β) (body : β → Logged α) :
    (items.mapM body).log.errors = items.flatMap fun item => (body item).log.errors := by
  induction items with
  | nil => rfl
  | cons head tail ih => simp [List.mapM_cons, ih]

theorem errors_forM (items : List β) (body : β → Logged Unit) :
    (items.forM body).log.errors = items.flatMap fun item => (body item).log.errors := by
  induction items with
  | nil => rfl
  | cons head tail ih =>
      change (body head >>= fun _ => tail.forM body).log.errors = _
      rw [log_bind, Log.errors_append, ih, List.flatMap_cons]

@[simp] theorem errors_reportAll (errors : List TypeError) :
    (reportAll errors).log.errors = errors := rfl

@[simp] theorem entries_reportAll (errors : List TypeError) :
    (reportAll errors).log.entries = [] := rfl

@[simp] theorem value_fail (span : Span) (fault : Fault) :
    (fail span fault : Logged (Option α)).value = none := rfl

@[simp] theorem errors_require (holds : Bool) (span : Span) (fault : Fault) :
    (require holds span fault).log.errors = if holds then [] else [⟨span, fault⟩] := rfl

@[simp] theorem errors_record (id : Nat) (types? : Option (List Ty)) :
    (record id types?).log.errors = [] := rfl

@[simp] theorem entries_record (id : Nat) (types? : Option (List Ty)) :
    (record id types?).log.entries = types?.toList.map (⟨id, ·⟩) := rfl

theorem yields_mapM {items : List β} {body : β → Logged α}
    (each : ∀ item ∈ items, (body item).Yields rule good) :
    (items.mapM body).Yields rule fun values => ∀ value ∈ values, good value := by
  induction items with
  | nil => exact yields_pure fun _ member => (nomatch member)
  | cons head tail ih =>
      rw [List.mapM_cons]
      refine yields_bind (each head (by simp)) fun value known => ?_
      refine yields_bind (ih fun item member => each item (by simp [member])) fun values all => ?_
      refine yields_pure fun item member => ?_
      rcases List.mem_cons.mp member with same | later
      · exact same ▸ known
      · exact all item later

theorem yields_forM {items : List β} {body : β → Logged Unit}
    (each : ∀ item ∈ items, (body item).Yields rule fun _ => True) :
    (items.forM body).Yields rule fun _ => True := by
  induction items with
  | nil => exact yields_pure trivial
  | cons head tail ih =>
      change ((body head) >>= fun _ => tail.forM body).Yields rule fun _ => True
      refine yields_bind (each head (by simp)) fun _ _ => ?_
      exact ih fun item member => each item (by simp [member])

theorem yields_reportAll {errors : List TypeError} (allowed : ∀ error ∈ errors, rule.error error) :
    (reportAll errors).Yields rule fun _ => True :=
  ⟨trivial, allowed, fun _ member => (nomatch member), fun _ member => (nomatch member)⟩

theorem yields_report {span : Span} {fault : Fault} (allowed : rule.error ⟨span, fault⟩) :
    (report span fault).Yields rule fun _ => True :=
  yields_reportAll fun error member => by
    rw [List.mem_singleton.mp member]
    exact allowed

theorem yields_require {holds : Bool} {span : Span} {fault : Fault}
    (allowed : rule.error ⟨span, fault⟩) :
    (require holds span fault).Yields rule fun _ => True := by
  refine yields_reportAll fun error member => ?_
  cases holds with
  | true => exact nomatch member
  | false =>
      rw [List.mem_singleton.mp member]
      exact allowed

theorem yields_fail {span : Span} {fault : Fault} {good : Option α → Prop}
    (allowed : rule.error ⟨span, fault⟩) (known : good none) :
    (fail span fault).Yields rule good := by
  refine ⟨known, ?_, fun _ member => (nomatch member), fun _ member => (nomatch member)⟩
  intro error member
  rw [List.mem_singleton.mp member]
  exact allowed

theorem yields_record {id : Nat} {types? : Option (List Ty)}
    (allowed : ∀ types, types? = some types → rule.entry ⟨id, types⟩) :
    (record id types?).Yields rule fun _ => True := by
  refine ⟨trivial, fun _ member => (nomatch member), ?_, fun _ member => (nomatch member)⟩
  intro entry member
  cases types? with
  | none => exact nomatch member
  | some types =>
      rw [List.mem_singleton.mp member]
      exact allowed types rfl

theorem promised_ok (value : α) : promised (.ok value) = Pure.pure (some value) := rfl

theorem yields_promised {result : Except Defect α} {good : Option α → Prop}
    (kept : ∀ value, result = .ok value → good (some value))
    (broken : ∀ defect, result = .error defect → rule.defect defect ∧ good none) :
    (promised result).Yields rule good := by
  cases result with
  | ok value => exact yields_pure (kept value rfl)
  | error defect =>
      obtain ⟨allowed, absent⟩ := broken defect rfl
      refine ⟨absent, fun _ member => (nomatch member), fun _ member => (nomatch member), ?_⟩
      intro found member
      rw [List.mem_singleton.mp member]
      exact allowed

end Logged

end TensorLang
