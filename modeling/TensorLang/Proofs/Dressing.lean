import TensorLang.Proofs.Entries
import TensorLang.Proofs.Follows
import TensorLang.Tree.Wrapping

set_option autoImplicit false

namespace TensorLang

-- Of the expressions in a layout, in their order, those that are recorded, without and with their
-- new parentheses.
inductive Dressed : List Wrapping → List Entry → List Entry → Prop where
  | nil : Dressed [] [] []
  | skip (wrapping : Wrapping) {layout : List Wrapping} {entries others : List Entry}
      (rest : Dressed layout entries others) : Dressed (wrapping :: layout) entries others
  | keep (wrapping : Wrapping) (types : List Ty) {layout : List Wrapping}
      {entries others : List Entry} (rest : Dressed layout entries others) :
      Dressed (wrapping :: layout) (⟨wrapping.id, types⟩ :: entries)
        (wrapping.ids.map (⟨·, types⟩) ++ others)

namespace Dressed

theorem unrecorded (layout : List Wrapping) : Dressed layout [] [] := by
  induction layout with
  | nil => exact .nil
  | cons wrapping rest ih => exact .skip wrapping ih

theorem append {first second : List Wrapping} {entries others moreEntries moreOthers : List Entry}
    (early : Dressed first entries others) (late : Dressed second moreEntries moreOthers) :
    Dressed (first ++ second) (entries ++ moreEntries) (others ++ moreOthers) := by
  induction early with
  | nil => exact late
  | skip wrapping _ ih => exact .skip wrapping ih
  | keep wrapping types _ ih =>
      rw [List.append_assoc]
      exact .keep wrapping types ih

end Dressed

namespace Logged

variable {α β γ δ : Type}

structure Twins (agree : α → β → Prop) (layout : List Wrapping) (first : Logged α)
    (second : Logged β) : Prop where
  value : agree first.value second.value
  errors : second.log.errors = first.log.errors
  defects : second.log.defects = first.log.defects
  entries : Dressed layout first.log.entries second.log.entries

variable {agree : α → β → Prop} {settle : γ → δ → Prop} {layout early late : List Wrapping}

theorem Twins.weaken {weaker : α → β → Prop} {first : Logged α} {second : Logged β}
    (twins : first.Twins agree layout second)
    (known : ∀ value copy, agree value copy → weaker value copy) :
    first.Twins weaker layout second :=
  ⟨known _ _ twins.value, twins.errors, twins.defects, twins.entries⟩

theorem entries_bind_pure (check : Logged α) (next : α → β) :
    (do return next (← check) : Logged β).log.entries = check.log.entries :=
  List.append_nil _

theorem twins_bind {first : Logged α} {second : Logged β} {next : α → Logged γ}
    {other : β → Logged δ} (start : first.Twins agree early second)
    (rest : ∀ value copy, agree value copy → (next value).Twins settle late (other copy)) :
    (first >>= next).Twins settle (early ++ late) (second >>= other) := by
  have last := rest first.value second.value start.value
  refine ⟨last.value, ?_, ?_, start.entries.append last.entries⟩
  · rw [log_bind, log_bind, Log.errors_append, Log.errors_append, start.errors, last.errors]
  · rw [log_bind, log_bind, Log.defects_append, Log.defects_append, start.defects, last.defects]

theorem twins_then {first : Logged α} {second : Logged β} {next : α → Logged γ}
    {other : β → Logged δ} (start : first.Twins agree layout second)
    (rest : ∀ value copy, agree value copy → (next value).Twins settle [] (other copy)) :
    (first >>= next).Twins settle layout (second >>= other) := by
  rw [← List.append_nil layout]
  exact twins_bind start rest

theorem twins_self {check : Logged α} {agree : α → α → Prop}
    (agreed : agree check.value check.value) (silent : check.log.entries = [])
    (layout : List Wrapping) : check.Twins agree layout check := by
  refine ⟨agreed, rfl, rfl, ?_⟩
  rw [silent]
  exact .unrecorded layout

theorem twins_same {first second : Logged α} (same : second = first)
    (silent : first.log.entries = []) (layout : List Wrapping) :
    first.Twins Eq layout second := by
  rw [same]
  exact twins_self rfl silent layout

theorem twins_after {check : Logged α} (silent : check.log.entries = []) {next : α → Logged γ}
    {other : α → Logged δ} (rest : ∀ value, (next value).Twins settle layout (other value)) :
    (check >>= next).Twins settle layout (check >>= other) := by
  have alike : check.Twins Eq [] check := twins_self rfl silent []
  rw [← List.nil_append layout]
  refine twins_bind alike fun value copy same => ?_
  rw [same]
  exact rest copy

theorem twins_pure {value : α} {copy : β} (agreed : agree value copy) :
    (Pure.pure value : Logged α).Twins agree [] (Pure.pure copy) :=
  ⟨agreed, rfl, rfl, .nil⟩

theorem twins_mapM {items : List γ} {others : List δ} {related : List Wrapping → γ → δ → Prop}
    {body : γ → Logged α} {copyBody : δ → Logged β} (paired : Paired related layout items others)
    (each : ∀ layout item other, related layout item other →
      (body item).Twins agree layout (copyBody other)) :
    (items.mapM body).Twins (List.Forall₂ agree) layout (others.mapM copyBody) := by
  induction paired with
  | nil => exact twins_pure .nil
  | cons head _ ih =>
      rw [List.mapM_cons, List.mapM_cons]
      refine twins_bind (each _ _ _ head) fun value copy first => ?_
      refine twins_then ih fun values copies rest => ?_
      exact twins_pure (.cons first rest)

end Logged

open Logged

-- Routines are the same but for parentheses in their bodies.
inductive Routine.Wraps : Routine → Routine → Prop where
  | intrinsic (name : String) (parameters results : List Var) :
      Routine.Wraps ⟨name, parameters, results, .intrinsic⟩ ⟨name, parameters, results, .intrinsic⟩
  | declared (name : String) (parameters results : List Var) {layout : List Wrapping}
      {body other : Block Node} (inside : Block.Wraps layout body other) :
      Routine.Wraps ⟨name, parameters, results, .declared body⟩
        ⟨name, parameters, results, .declared other⟩

-- Tables are the same but for their routines.
def SymbolTable.Wraps (first second : SymbolTable) : Prop :=
  ∃ routines, second = { first with routines := routines } ∧
    List.Forall₂ Routine.Wraps first.routines routines

def Visit.Wraps (layout : List Wrapping) (first second : Visit) : Prop :=
  second.span = first.span ∧ first.check.Twins Eq layout second.check

inductive Position.Wraps : List Wrapping → Position → Position → Prop where
  | slice (span : Span) : Position.Wraps [] (.slice span) (.slice span)
  | «at» {layout : List Wrapping} {visit other : Visit} (inside : Visit.Wraps layout visit other) :
      Position.Wraps layout (.at visit) (.at other)

theorem paired_length {α β : Type} {related : List Wrapping → α → β → Prop}
    {layout : List Wrapping} {items : List α} {others : List β}
    (paired : Paired related layout items others) : others.length = items.length := by
  induction paired with
  | nil => rfl
  | cons _ _ ih => rw [List.length_cons, List.length_cons, ih]

variable {first second : SymbolTable} {layout : List Wrapping}

namespace SymbolTable.Wraps

theorem push (wraps : first.Wraps second) : first.push.Wraps second.push := by
  obtain ⟨routines, rfl, related⟩ := wraps
  exact ⟨routines, rfl, related⟩

theorem pop (wraps : first.Wraps second) : first.pop.Wraps second.pop := by
  obtain ⟨routines, rfl, related⟩ := wraps
  exact ⟨routines, rfl, related⟩

theorem bind (wraps : first.Wraps second) (name : String) (type? : Option Ty) (access : Access) :
    (first.bind name type? access).Wraps (second.bind name type? access) := by
  obtain ⟨routines, rfl, related⟩ := wraps
  refine ⟨routines, ?_, ?_⟩
  · obtain ⟨root, inner, nextScope, nextVar, elements, others⟩ := first
    cases inner <;> rfl
  · rw [routines_bind]
    exact related

theorem symbol? (wraps : first.Wraps second) (name : String) :
    second.symbol? name = first.symbol? name := by
  obtain ⟨routines, rfl, related⟩ := wraps
  rfl

theorem local? (wraps : first.Wraps second) (name : String) :
    second.local? name = first.local? name := by
  obtain ⟨routines, rfl, related⟩ := wraps
  rfl

theorem element? (wraps : first.Wraps second) (name : String) :
    second.element? name = first.element? name := by
  obtain ⟨routines, rfl, related⟩ := wraps
  rfl

end SymbolTable.Wraps

theorem operand_twins {visit other : Visit} (wraps : Visit.Wraps layout visit other) :
    visit.operand.Twins Eq layout other.operand := by
  obtain ⟨span, checked⟩ := wraps
  refine twins_then checked fun types copy same => ?_
  rw [same, span]
  exact twins_pure rfl

theorem compare_all_twins {visits others : List Visit}
    (paired : Paired Visit.Wraps layout visits others) (first? : Outcome) :
    (compareAll first? visits).Twins Eq layout (compareAll first? others) := by
  induction paired generalizing first? with
  | nil => exact twins_pure rfl
  | cons head _ ih =>
      rw [compareAll, compareAll]
      refine twins_bind (operand_twins head) fun operand copy same => ?_
      rw [same]
      exact twins_after (Log.View.entries.part_compare_with first? copy) ih

theorem comparison_twins {visits others : List Visit}
    (paired : Paired Visit.Wraps layout visits others) :
    (checkComparison visits).Twins Eq layout (checkComparison others) :=
  twins_then (compare_all_twins paired none) fun _ _ _ => twins_pure rfl

end TensorLang
