import Mathlib.Data.List.Nodup
import TensorLang.Proofs.CompletePrograms
import TensorLang.Proofs.DressedStmts

set_option autoImplicit false

namespace TensorLang

def recordedTypes (entries : List Entry) (id : Nat) : List (List Ty) :=
  (entries.filter (·.id == id)).map Entry.types

theorem recorded_types_append (entries more : List Entry) (id : Nat) :
    recordedTypes (entries ++ more) id = recordedTypes entries id ++ recordedTypes more id := by
  rw [recordedTypes, List.filter_append, List.map_append]
  rfl

theorem recorded_types_copies (ids : List Nat) (types : List Ty) (id : Nat) :
    recordedTypes (ids.map (⟨·, types⟩)) id = List.replicate (ids.count id) types := by
  rw [recordedTypes, List.filter_map, List.map_map]
  exact (congrArg (List.map _) (List.filter_beq id)).trans List.map_replicate

theorem Report.types_recordedTypes (report : Report) (id : Nat) :
    report.types? id = (recordedTypes report.entries id).getLast? := by
  rw [Report.types?, recordedTypes, List.getLast?_map, ← List.head?_filter, List.filter_reverse,
    List.head?_reverse]

variable {layout : List Wrapping} {entries others : List Entry}

namespace Dressed

theorem ids_sublist (dressed : Dressed layout entries others) :
    (others.map Entry.id).Sublist (layout.flatMap Wrapping.ids) := by
  induction dressed with
  | nil => exact .slnil
  | skip wrapping _ ih =>
      rw [List.flatMap_cons]
      exact ih.trans (List.sublist_append_right ..)
  | keep wrapping types _ ih =>
      rw [List.flatMap_cons, List.map_append, List.map_map]
      have same : wrapping.ids.map (Entry.id ∘ (⟨·, types⟩)) = wrapping.ids := List.map_id _
      rw [same]
      exact ih.append_left _

theorem absent (dressed : Dressed layout entries others) {id : Nat}
    (unlisted : id ∉ layout.flatMap Wrapping.ids) : recordedTypes others id = [] := by
  rw [recordedTypes, List.map_eq_nil_iff, List.filter_eq_nil_iff]
  intro entry member same
  have listed : entry.id ∈ layout.flatMap Wrapping.ids :=
    dressed.ids_sublist.subset (List.mem_map_of_mem member)
  exact unlisted (eq_of_beq same ▸ listed)

theorem outside (dressed : Dressed layout entries others) {id : Nat}
    (old : id ∉ layout.flatMap Wrapping.parens) :
    recordedTypes others id = recordedTypes entries id := by
  induction dressed with
  | nil => rfl
  | skip wrapping _ ih =>
      rw [List.flatMap_cons, List.mem_append, not_or] at old
      exact ih old.2
  | @keep wrapping types _ entries others _ ih =>
      rw [List.flatMap_cons, List.mem_append, not_or] at old
      have once : wrapping.ids.count id = [wrapping.id].count id := by
        rw [Wrapping.ids, List.count_cons, List.count_eq_zero_of_not_mem old.1,
          List.count_singleton, Nat.zero_add]
      change _ = recordedTypes ([wrapping.id].map (⟨·, types⟩) ++ entries) id
      rw [recorded_types_append, recorded_types_append, recorded_types_copies,
        recorded_types_copies, once, ih old.2]

theorem around (dressed : Dressed layout entries others)
    (distinct : (layout.flatMap Wrapping.ids).Nodup) {wrapping : Wrapping}
    (member : wrapping ∈ layout) {id : Nat} (inside : id ∈ wrapping.ids) :
    recordedTypes others id = recordedTypes others wrapping.id := by
  have own : wrapping.id ∈ wrapping.ids := List.mem_cons_self
  induction dressed with
  | nil => exact (nomatch member)
  | skip first rest ih =>
      rw [List.flatMap_cons, List.nodup_append] at distinct
      obtain ⟨_, distinct, apart⟩ := distinct
      rcases List.mem_cons.mp member with rfl | later
      · rw [rest.absent fun listed => apart _ inside _ listed rfl,
          rest.absent fun listed => apart _ own _ listed rfl]
      · exact ih distinct later
  | keep first types rest ih =>
      rw [List.flatMap_cons, List.nodup_append] at distinct
      obtain ⟨once, distinct, apart⟩ := distinct
      rw [recorded_types_append, recorded_types_append, recorded_types_copies,
        recorded_types_copies]
      rcases List.mem_cons.mp member with rfl | later
      · rw [List.count_eq_one_of_mem once inside, List.count_eq_one_of_mem once own,
          rest.absent fun listed => apart _ inside _ listed rfl,
          rest.absent fun listed => apart _ own _ listed rfl]
      · have unlisted {other : Nat} (known : other ∈ wrapping.ids) : first.ids.count other = 0 :=
          List.count_eq_zero_of_not_mem fun early =>
            apart _ early _ (List.mem_flatMap.mpr ⟨wrapping, later, known⟩) rfl
        rw [unlisted inside, unlisted own, ih distinct later]

end Dressed

open Logged

theorem initial_wraps (intrinsics : Bool) :
    let table := (SymbolTable.empty.registering (SymbolTable.initial intrinsics)).value
    table.Wraps table := by
  obtain ⟨table, set, _, _, _, onlyIntrinsics⟩ := initial_settled intrinsics
  rw [set, SymbolTable.registering_ok]
  refine ⟨table.routines, rfl, List.forall₂_same.mpr fun routine member => ?_⟩
  obtain ⟨name, parameters, results, origin⟩ := routine
  cases origin with
  | intrinsic => exact .intrinsic name parameters results
  | declared body => exact absurd (onlyIntrinsics _ member) Bool.false_ne_true

theorem run_twins {program wrapped : Program Node} (wraps : program.Wraps layout wrapped)
    (intrinsics : Bool) :
    (program.run intrinsics).Twins SymbolTable.Wraps layout (wrapped.run intrinsics) := by
  obtain ⟨node, each⟩ := wraps
  have silent : (SymbolTable.empty.registering
      (SymbolTable.initial intrinsics)).log.entries = [] := by
    obtain ⟨table, set, _⟩ := initial_settled intrinsics
    rw [set]
    rfl
  have start : Logged.Twins SymbolTable.Wraps [] _ _ :=
    twins_self (initial_wraps intrinsics) silent []
  exact twins_bind start fun _ _ related => definitions_twins related each

theorem Routine.Wraps.same_origin {first second : Routine} (wraps : first.Wraps second) :
    second.isIntrinsic = first.isIntrinsic := by
  cases wraps with
  | intrinsic => rfl
  | declared => rfl

theorem SymbolTable.Wraps.elements {first second : SymbolTable} (wraps : first.Wraps second) :
    second.elements = first.elements := by
  obtain ⟨routines, rfl, _⟩ := wraps
  rfl

theorem SymbolTable.Wraps.routines {first second : SymbolTable} (wraps : first.Wraps second) :
    List.Forall₂ Routine.Wraps (first.routines.filter (!·.isIntrinsic))
      (second.routines.filter (!·.isIntrinsic)) := by
  obtain ⟨routines, rfl, related⟩ := wraps
  refine List.rel_filter (fun routine copy same => ?_) related
  dsimp only
  rw [same.same_origin]

-- Whether a report is withheld depends on the broken promises only.
theorem check_of_same_defects {program other : Program Node} {intrinsics : Bool}
    (same : (other.run intrinsics).log.defects = (program.run intrinsics).log.defects) :
    other.check intrinsics = (program.check intrinsics).map fun _ =>
      ⟨(other.run intrinsics).log.errors, (other.run intrinsics).log.entries,
        (other.run intrinsics).value⟩ := by
  unfold Program.check
  dsimp only
  rw [same]
  cases (program.run intrinsics).log.defects with
  | nil => rfl
  | cons defect rest => rfl

-- The parentheses around an expression have its types, or none if it has none.
theorem parentheses_transparent {program wrapped : Program Node}
    (wraps : program.Wraps layout wrapped) (intrinsics : Bool) :
    (∀ defect, program.check intrinsics = .error defect →
      wrapped.check intrinsics = .error defect) ∧
    ∀ report, program.check intrinsics = .ok report →
      ∃ other, wrapped.check intrinsics = .ok other ∧ other.errors = report.errors ∧
        other.elements = report.elements ∧
        List.Forall₂ Routine.Wraps report.routines other.routines ∧
        (∀ id, id ∉ layout.flatMap Wrapping.parens → other.types? id = report.types? id) ∧
        ((layout.flatMap Wrapping.ids).Nodup → ∀ wrapping ∈ layout, ∀ id ∈ wrapping.parens,
          other.types? id = other.types? wrapping.id) := by
  have twins := run_twins wraps intrinsics
  refine ⟨fun defect checked => ?_, fun report checked => ?_⟩
  · rw [check_of_same_defects twins.defects, checked]
    rfl
  · refine ⟨_, (check_of_same_defects twins.defects).trans (congrArg _ checked), ?_⟩
    rw [report_of_check checked]
    refine ⟨twins.errors, twins.value.elements, twins.value.routines, fun id old => ?_,
      fun distinct wrapping member id added => ?_⟩
    · rw [Report.types_recordedTypes, Report.types_recordedTypes]
      exact congrArg _ (twins.entries.outside old)
    · rw [Report.types_recordedTypes, Report.types_recordedTypes]
      exact congrArg _ (twins.entries.around distinct member (List.mem_cons_of_mem _ added))

def nodeAt (id : Nat) : Node := ⟨id, .origin⟩

theorem name_wraps (name : Name Node) (parens : List Nat) :
    Expr.Wraps [⟨name.node.id, parens⟩] (.ident name) (Expr.enclosed (.ident name) parens) :=
  .around (.ident name) parens

def tally (first second : Expr Node) : Program Node :=
  let name (id : Nat) (text : String) : Name Node := ⟨nodeAt id, text⟩
  ⟨nodeAt 0, [.routine ⟨nodeAt 1, .procedure, name 2 "show",
    [⟨nodeAt 3, name 4 "amount", false, .scalar (nodeAt 5) .int⟩], [],
    ⟨nodeAt 6, [.assign (nodeAt 7) [.ident (name 8 "total")] first,
      .print (nodeAt 9) second]⟩⟩]⟩

theorem tally_parentheses :
    let amount : Expr Node := .ident ⟨nodeAt 10, "amount"⟩
    let total : Expr Node := .ident ⟨nodeAt 11, "total"⟩
    let ghost : Expr Node := .ident ⟨nodeAt 12, "ghost"⟩
    let layout : List Wrapping :=
      [⟨10, [14, 15]⟩, ⟨8, []⟩, ⟨11, [16]⟩, ⟨12, [17]⟩, ⟨13, [18]⟩]
    let plain := tally amount (.binary (nodeAt 13) .add total ghost)
    let wrapped := tally (amount.enclosed [14, 15])
      (Expr.enclosed (.binary (nodeAt 13) .add (total.enclosed [16]) (ghost.enclosed [17])) [18])
    plain.Wraps layout wrapped ∧ (layout.flatMap Wrapping.ids).Nodup ∧
      ∃ report other, plain.check true = .ok report ∧ wrapped.check true = .ok other ∧
        other.errors = report.errors ∧ report.errors.length = 1 ∧
        List.Forall₂ Routine.Wraps report.routines other.routines ∧
        other.types? 10 = report.types? 10 ∧ other.types? 15 = other.types? 10 ∧
        (report.types? 10).map (·.map Ty.text) = some ["int"] ∧
        other.types? 17 = other.types? 12 ∧ report.types? 12 = none := by
  intro amount total ghost layout plain wrapped
  have onAmount := name_wraps ⟨nodeAt 10, "amount"⟩ [14, 15]
  have onTotal := name_wraps ⟨nodeAt 11, "total"⟩ [16]
  have onGhost := name_wraps ⟨nodeAt 12, "ghost"⟩ [17]
  have onSum := Expr.Wraps.around (.binary (nodeAt 13) .add onTotal onGhost) [18]
  have onTarget := Paired.cons (Expr.WrapsTarget.bare ⟨nodeAt 8, "total"⟩) .nil
  have onBody := Block.Wraps.statements (nodeAt 6)
    (.cons (.assign (nodeAt 7) onAmount onTarget) (.cons (.print (nodeAt 9) onSum) .nil))
  have wraps : plain.Wraps layout wrapped :=
    .definitions _ (.cons (Definition.Wraps.routine _ _ _ _ _ onBody) .nil)
  have fresh : (layout.flatMap Wrapping.ids).Nodup := by decide
  have kept : (plain.run true).log.defects = [] := by decide +kernel
  have checked : plain.check true = .ok ⟨(plain.run true).log.errors,
    (plain.run true).log.entries, (plain.run true).value⟩ := by
    unfold Program.check
    dsimp only
    rw [kept]
  obtain ⟨other, succeeded, errors, _, routines, old, added⟩ :=
    (parentheses_transparent wraps true).2 _ checked
  refine ⟨wraps, fresh, _, other, checked, succeeded, errors, by decide +kernel, routines,
    old 10 (by decide), added fresh ⟨10, [14, 15]⟩ (by decide) 15 (by decide), by decide +kernel,
    added fresh ⟨12, [17]⟩ (by decide) 17 (by decide), by decide +kernel⟩

end TensorLang
