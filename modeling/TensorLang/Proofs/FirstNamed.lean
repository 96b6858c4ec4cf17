import Mathlib.Data.List.Nodup

set_option autoImplicit false

namespace TensorLang

variable {α : Type} (nameOf : α → String)

-- The first item of every name, in order.
def firstNamed : List α → List α
  | [] => []
  | item :: rest => item :: (firstNamed rest).filter (nameOf · != nameOf item)

def addNew (listed : List α) (item : α) : List α :=
  if listed.any (nameOf · == nameOf item) then listed else listed ++ [item]

theorem any_named (items : List α) (name : String) :
    items.any (nameOf · == name) = true ↔ name ∈ items.map nameOf := by
  rw [List.any_eq_true, List.mem_map]
  simp only [beq_iff_eq]

theorem find_named_none (items : List α) (name : String) :
    items.find? (nameOf · == name) = none ↔ name ∉ items.map nameOf := by
  rw [List.find?_eq_none, List.mem_map]
  simp only [beq_iff_eq, not_exists, not_and]

theorem addNew_taken {listed : List α} (item : α) {other : α}
    (found : listed.find? (nameOf · == nameOf item) = some other) :
    addNew nameOf listed item = listed := by
  have taken : listed.any (nameOf · == nameOf item) = true :=
    List.any_eq_true.mpr
      ⟨other, List.mem_of_find?_eq_some found, by simpa using List.find?_some found⟩
  rw [addNew, if_pos taken]

theorem addNew_free {listed : List α} (item : α)
    (free : listed.find? (nameOf · == nameOf item) = none) :
    addNew nameOf listed item = listed ++ [item] := by
  have absent := (find_named_none nameOf listed (nameOf item)).mp free
  rw [addNew, if_neg fun taken => absent ((any_named nameOf listed _).mp taken)]

theorem firstNamed_sublist (items : List α) : (firstNamed nameOf items).Sublist items := by
  induction items with
  | nil => exact List.Sublist.refl _
  | cons item rest ih => exact (List.filter_sublist.trans ih).cons_cons item

theorem firstNamed_distinct (items : List α) : ((firstNamed nameOf items).map nameOf).Nodup := by
  induction items with
  | nil => exact List.nodup_nil
  | cons item rest ih =>
      rw [firstNamed, List.map_cons, List.nodup_cons]
      refine ⟨fun again => ?_, ih.sublist (List.filter_sublist.map nameOf)⟩
      obtain ⟨other, member, same⟩ := List.mem_map.mp again
      have different := (List.mem_filter.mp member).2
      rw [same, bne_self_eq_false] at different
      cases different

theorem filter_firstNamed (keep : String → Bool) (items : List α) :
    (firstNamed nameOf items).filter (keep <| nameOf ·) =
      firstNamed nameOf (items.filter (keep <| nameOf ·)) := by
  induction items with
  | nil => rfl
  | cons item rest ih =>
      rw [firstNamed, List.filter_cons, List.filter_cons]
      by_cases kept : keep (nameOf item) = true
      · rw [if_pos kept, if_pos kept, firstNamed, ← ih, List.filter_filter, List.filter_filter]
        simp only [Bool.and_comm]
      · rw [if_neg kept, if_neg kept, ← ih, List.filter_filter]
        refine List.filter_congr fun other _ => ?_
        cases known : keep (nameOf other) with
        | false => rfl
        | true =>
            have different : nameOf other ≠ nameOf item := fun same => kept (same ▸ known)
            rw [bne_iff_ne.mpr different]
            rfl

theorem foldl_addNew (items listed : List α) :
    items.foldl (addNew nameOf) listed =
      listed ++ (firstNamed nameOf items).filter
        fun item => !listed.any (nameOf · == nameOf item) := by
  induction items generalizing listed with
  | nil => exact (List.append_nil listed).symm
  | cons item rest ih =>
      rw [List.foldl_cons, ih, firstNamed, addNew, List.filter_cons, List.filter_filter]
      cases taken : listed.any (nameOf · == nameOf item) with
      | true =>
          simp only [if_true, Bool.not_true, Bool.false_eq_true, if_false]
          refine congrArg (listed ++ ·) (List.filter_congr fun other _ => ?_)
          by_cases same : nameOf other = nameOf item
          · rw [same, taken]
            rfl
          · rw [bne_iff_ne.mpr same, Bool.and_true]
      | false =>
          simp only [if_true, Bool.not_false, Bool.false_eq_true, if_false, List.append_assoc]
          refine congrArg (listed ++ item :: ·) (List.filter_congr fun other _ => ?_)
          simp only [List.any_append, List.any_cons, List.any_nil, Bool.or_false, Bool.not_or]
          rw [bne, BEq.comm (a := nameOf other)]

theorem addNew_distinct {listed : List α} (distinct : (listed.map nameOf).Nodup) (item : α) :
    ((addNew nameOf listed item).map nameOf).Nodup := by
  rw [addNew]
  by_cases taken : listed.any (nameOf · == nameOf item) = true
  · rw [if_pos taken]
    exact distinct
  · rw [if_neg taken, List.map_append]
    refine List.nodup_append.mpr ⟨distinct, List.nodup_singleton _, fun name old other new same => ?_⟩
    rw [same, List.mem_singleton.mp new] at old
    exact taken ((any_named nameOf listed _).mpr old)

theorem foldl_addNew_distinct (items : List α) {listed : List α}
    (distinct : (listed.map nameOf).Nodup) :
    ((items.foldl (addNew nameOf) listed).map nameOf).Nodup := by
  induction items generalizing listed with
  | nil => exact distinct
  | cons item rest ih => exact ih (addNew_distinct nameOf distinct item)

theorem foldl_addNew_nil (items : List α) :
    items.foldl (addNew nameOf) [] = firstNamed nameOf items := by
  rw [foldl_addNew, List.nil_append]
  exact List.filter_eq_self.mpr fun _ _ => rfl

theorem firstNamed_map {β : Type} (change : β → α) (items : List β) :
    firstNamed nameOf (items.map change) =
      (firstNamed (fun item => nameOf (change item)) items).map change := by
  induction items with
  | nil => rfl
  | cons item rest ih =>
      rw [List.map_cons, firstNamed, firstNamed, List.map_cons, ih, List.filter_map]
      rfl

variable {nameOf}

theorem find_named {items : List α} (distinct : (items.map nameOf).Nodup) (name : String)
    (item : α) :
    items.find? (nameOf · == name) = some item ↔ item ∈ items ∧ nameOf item = name := by
  have bears {other : α} (found : items.find? (nameOf · == name) = some other) :
      nameOf other = name := by
    simpa using List.find?_some found
  refine ⟨fun found => ⟨List.mem_of_find?_eq_some found, bears found⟩, fun ⟨member, named⟩ => ?_⟩
  cases found : items.find? (nameOf · == name) with
  | none => exact absurd (beq_iff_eq.mpr named) (List.find?_eq_none.mp found item member)
  | some other =>
      have same : nameOf other = nameOf item := (bears found).trans named.symm
      rw [List.inj_on_of_nodup_map distinct (List.mem_of_find?_eq_some found) member same]

end TensorLang
