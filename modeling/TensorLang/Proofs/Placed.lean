import TensorLang.Proofs.Logged
import TensorLang.Proofs.Promises
import TensorLang.Tree.Outline
import TensorLang.Typing.Definition

set_option autoImplicit false

namespace TensorLang

variable {place : Span → Prop} {α β : Type}

namespace Logged

def Placed (place : Span → Prop) (check : Logged α) : Prop :=
  ∀ error ∈ check.log.errors, place error.span

@[simp] theorem placed_pure (value : α) : (Pure.pure value : Logged α).Placed place :=
  fun _ member => (nomatch member)

@[simp] theorem placed_bind (first : Logged α) (next : α → Logged β) :
    (first >>= next).Placed place ↔ first.Placed place ∧ (next first.value).Placed place :=
  List.forall_mem_append

@[simp] theorem placed_map (change : α → β) (first : Logged α) :
    (change <$> first).Placed place ↔ first.Placed place := by
  simp [Placed]

@[simp] theorem placed_reportAll (errors : List TypeError) :
    (reportAll errors).Placed place ↔ ∀ error ∈ errors, place error.span := Iff.rfl

@[simp] theorem placed_report (span : Span) (fault : Fault) :
    (report span fault).Placed place ↔ place span :=
  List.forall_mem_singleton

@[simp] theorem placed_fail (span : Span) (fault : Fault) :
    (fail span fault : Logged (Option α)).Placed place ↔ place span :=
  List.forall_mem_singleton

theorem placed_require {span : Span} (known : place span) (holds : Bool) (fault : Fault) :
    (require holds span fault).Placed place := by
  cases holds with
  | true => exact fun _ member => (nomatch member)
  | false => exact List.forall_mem_singleton.mpr known

@[simp] theorem placed_record (id : Nat) (types? : Option (List Ty)) :
    (record id types?).Placed place :=
  fun _ member => (nomatch member)

@[simp] theorem placed_promised (result : Except Defect α) : (promised result).Placed place := by
  cases result <;> exact fun _ member => (nomatch member)

@[simp] theorem placed_mapM (items : List β) (body : β → Logged α) :
    (items.mapM body).Placed place ↔ ∀ item ∈ items, (body item).Placed place := by
  induction items with
  | nil => simp
  | cons head tail ih => simp [List.mapM_cons, ih]

@[simp] theorem placed_forM (items : List β) (body : β → Logged Unit) :
    (items.forM body).Placed place ↔ ∀ item ∈ items, (body item).Placed place := by
  induction items with
  | nil => exact ⟨fun _ _ member => (nomatch member), fun _ => placed_pure ()⟩
  | cons head tail ih =>
      change (body head >>= fun _ => tail.forM body).Placed place ↔ _
      rw [placed_bind, ih, List.forall_mem_cons]

end Logged

open Logged

def Stand (place : Span → Prop) (rows : List (Row Node)) : Prop :=
  ∀ row ∈ rows, place row.node.span

@[simp] theorem stand_cons (row : Row Node) (rest : List (Row Node)) :
    Stand place (row :: rest) ↔ place row.node.span ∧ Stand place rest :=
  List.forall_mem_cons

@[simp] theorem stand_append (first second : List (Row Node)) :
    Stand place (first ++ second) ↔ Stand place first ∧ Stand place second :=
  List.forall_mem_append

theorem stand_map {items : List β} {row : β → Row Node} (all : Stand place (items.map row))
    {item : β} (listed : item ∈ items) : place (row item).node.span :=
  all (row item) (List.mem_map_of_mem listed)

theorem stand_flatMap {items : List β} {rows : β → List (Row Node)}
    (all : Stand place (items.flatMap rows)) {item : β} (listed : item ∈ items) :
    Stand place (rows item) :=
  fun row member => all row (List.mem_flatMap_of_mem listed member)

section Annotations

variable (table : SymbolTable)

theorem resolve_element_placed {name : Name Node} (known : place name.node.span) :
    (name.resolveElement table).Placed place := by
  rw [name.resolve_element_promised]
  split <;> simp [known]

theorem resolve_set_placed (wrong : Ty → Mismatch) {name : Name Node}
    (known : place name.node.span) : (name.resolveSet table wrong).Placed place := by
  rw [name.resolve_set_promised]
  split
  · simp [known]
  · split <;> simp [known]

theorem domain_placed {domain : Domain Node} (known : place domain.node.span) :
    (domain.resolve table).Placed place := by
  cases domain with
  | range node size => exact placed_pure _
  | dynamic node => exact placed_pure _
  | set name =>
      have resolved : (name.resolveIndexSet table).Placed place :=
        resolve_set_placed table _ known
      simpa [Domain.resolve] using resolved

theorem tensor_of_placed {span blockSpan : Span} (known : place span)
    (blockKnown : place blockSpan) (column : Bool) (leading : List (IndexSet Var)) (block : Ty) :
    (block.tensorOf span blockSpan column leading).Placed place := by
  simp only [Ty.tensorOf, TensorType.oriented]
  repeat' split
  all_goals simp [known, blockKnown]

theorem annotation_place (written : TypeExpr Node) (inside : Stand place written.outline) :
    place written.node.span := by
  cases written <;> exact (List.forall_mem_cons.mp inside).1

theorem domain_row_place (domain : Domain Node) (known : place domain.row.node.span) :
    place domain.node.span := by
  cases domain <;> exact known

theorem annotation_placed {written : TypeExpr Node} (inside : Stand place written.outline) :
    (written.resolve table).Placed place := by
  induction written with
  | scalar node component => exact placed_pure _
  | element name => exact resolve_element_placed table (annotation_place _ inside)
  | set node member endpoints =>
      simp only [TypeExpr.outline, stand_cons] at inside
      obtain ⟨_, element, ends⟩ := inside
      have each : ∀ name ∈ endpoints, (name.resolveEndpoint table).Placed place :=
        fun name listed => resolve_set_placed table .endpoint (stand_map ends listed)
      simp only [TypeExpr.resolve, placed_bind, placed_mapM]
      refine ⟨resolve_element_placed table element, each, ?_⟩
      split <;> simp
  | tuple node member lengthNode length =>
      simp only [TypeExpr.outline, stand_cons] at inside
      obtain ⟨_, element, lengthKnown, _⟩ := inside
      simp only [TypeExpr.resolve, placed_bind]
      refine ⟨resolve_element_placed table element, ?_⟩
      split <;> simp [lengthKnown]
  | tensor node domains inner column ih =>
      simp only [TypeExpr.outline, stand_cons, stand_append] at inside
      obtain ⟨here, axes, block⟩ := inside
      have each : ∀ domain ∈ domains, (domain.resolve table).Placed place :=
        fun domain listed =>
          domain_placed table (domain_row_place domain (stand_map axes listed))
      simp only [TypeExpr.resolve, placed_bind, placed_mapM]
      refine ⟨ih block, each, ?_⟩
      split
      · exact tensor_of_placed here (annotation_place inner block) column _ _
      · simp

end Annotations

end TensorLang
