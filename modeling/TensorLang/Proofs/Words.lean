set_option autoImplicit false

namespace TensorLang

-- What texts of types have beside names and sizes.
def typeMarks : List Char := ['[', ']', '(', ')', '\x7b', '\x7d', ',', '*', '\x27']

theorem marks_plain : ∀ mark ∈ typeMarks, mark.isDigit = false ∧ mark ≠ '_' := by
  simp [typeMarks, Char.isDigit]

structure Alphabet where
  letter : Char → Bool
  digits : ∀ c : Char, c.isDigit = true → letter c = false
  marks : ∀ mark ∈ typeMarks, letter mark = false

def Alphabet.IsIdentifier (alphabet : Alphabet) (name : String) : Prop :=
  ∃ first rest, name.toList = first :: rest ∧ alphabet.letter first = true ∧
    ∀ c ∈ rest, alphabet.letter c = true ∨ c.isDigit = true ∨ c = '_'

namespace Alphabet.IsIdentifier

variable {alphabet : Alphabet} {name : String}

theorem unmarked (named : alphabet.IsIdentifier name) {mark : Char} (listed : mark ∈ typeMarks) :
    mark ∉ name.toList := by
  obtain ⟨first, rest, split, leading, others⟩ := named
  have foreign : alphabet.letter mark = false := alphabet.marks mark listed
  have plain := marks_plain mark listed
  rw [split]
  intro member
  rcases List.mem_cons.mp member with same | later
  · rw [same, leading] at foreign
    cases foreign
  · rcases others mark later with letter | digit | underscore
    · cases foreign.symm.trans letter
    · cases plain.1.symm.trans digit
    · exact plain.2 underscore

end Alphabet.IsIdentifier

theorem toString_digits (size : Nat) : ∀ c ∈ (toString size).toList, c.isDigit = true := by
  rw [Nat.toString_eq_repr, Nat.toList_repr]
  exact fun c member => Nat.isDigit_of_mem_toDigits (by decide) (Nat.le_refl 10) member

theorem toString_starts (size : Nat) :
    ∃ first rest, (toString size).toList = first :: rest ∧ first.isDigit = true := by
  have proper : (toString size).toList ≠ [] := by
    rw [Nat.toString_eq_repr, Nat.toList_repr]
    exact Nat.toDigits_ne_nil
  obtain ⟨first, rest, split⟩ := List.exists_cons_of_ne_nil proper
  exact ⟨first, rest, split, toString_digits size first (split ▸ List.mem_cons_self)⟩

theorem toString_avoids (size : Nat) {mark : Char} (foreign : mark.isDigit = false) :
    mark ∉ (toString size).toList :=
  fun member => ne_true_of_eq_false foreign (toString_digits size mark member)

theorem toString_unmarked (size : Nat) {mark : Char} (listed : mark ∈ typeMarks) :
    mark ∉ (toString size).toList :=
  toString_avoids size (marks_plain mark listed).1

theorem toString_inj {size count : Nat} (same : toString size = toString count) :
    size = count := by
  have digits := congrArg (fun text => Nat.ofDigitChars 10 text.toList 0) same
  simp only [Nat.toString_eq_repr, Nat.toList_repr] at digits
  rwa [Nat.ofDigitChars_ten_toDigits, Nat.ofDigitChars_ten_toDigits] at digits

theorem front_cancel (plain : Char → Prop) {left right after later : List Char}
    (leftPlain : ∀ c ∈ left, plain c) (rightPlain : ∀ c ∈ right, plain c)
    (ends : ∀ c ∈ after.head?, ¬plain c) (laterEnds : ∀ c ∈ later.head?, ¬plain c)
    (same : left ++ after = right ++ later) : left = right ∧ after = later := by
  induction left generalizing right with
  | nil =>
      cases right with
      | nil => exact ⟨rfl, same⟩
      | cons next rest =>
          rw [show after = next :: (rest ++ later) from same] at ends
          exact (ends next rfl (rightPlain next List.mem_cons_self)).elim
  | cons character front ih =>
      obtain ⟨plainHead, plainFront⟩ := List.forall_mem_cons.mp leftPlain
      cases right with
      | nil =>
          rw [show later = character :: (front ++ after) from same.symm] at laterEnds
          exact (laterEnds character rfl plainHead).elim
      | cons next rest =>
          obtain ⟨rfl, others⟩ := List.cons.inj same
          obtain ⟨rfl, followers⟩ :=
            ih plainFront (fun c member => rightPlain c (List.mem_cons_of_mem _ member)) others
          exact ⟨rfl, followers⟩

theorem mark_splits {mark : Char} {left right after later : List Char} (leftPlain : mark ∉ left)
    (rightPlain : mark ∉ right) (same : left ++ mark :: after = right ++ mark :: later) :
    left = right ∧ after = later := by
  obtain ⟨fronts, rest⟩ := front_cancel (· ≠ mark)
    (fun c member same => leftPlain (same ▸ member))
    (fun c member same => rightPlain (same ▸ member))
    (fun c found plain => plain (Option.mem_some.mp found).symm)
    (fun c found plain => plain (Option.mem_some.mp found).symm) same
  exact ⟨fronts, (List.cons.inj rest).2⟩

theorem joined_inj {separator : Char} {left right : List String}
    (leftPlain : ∀ text ∈ left, separator ∉ text.toList)
    (rightPlain : ∀ text ∈ right, separator ∉ text.toList) (leftProper : left ≠ [])
    (rightProper : right ≠ [])
    (same : List.intercalate [separator] (left.map String.toList) =
      List.intercalate [separator] (right.map String.toList)) : left = right := by
  have read {texts : List String} (plain : ∀ text ∈ texts, separator ∉ text.toList)
      (proper : texts ≠ []) : (List.intercalate [separator] (texts.map String.toList)).splitOn
        separator = texts.map String.toList :=
    List.splitOn_intercalate separator (List.forall_mem_map.mpr plain)
      (mt List.map_eq_nil_iff.mp proper)
  have parts := congrArg (List.splitOn separator) same
  rw [read leftPlain leftProper, read rightPlain rightProper] at parts
  exact (List.map_inj_right fun _ _ => String.toList_injective).mp parts

theorem joined_avoids {character separator : Char} (other : character ≠ separator)
    {texts : List (List Char)} (each : ∀ text ∈ texts, character ∉ text) :
    character ∉ List.intercalate [separator] texts := by
  induction texts with
  | nil => simp
  | cons text rest ih =>
      obtain ⟨first, later⟩ := List.forall_mem_cons.mp each
      cases rest with
      | nil =>
          rw [List.intercalate_singleton]
          exact first
      | cons next more =>
          rw [List.intercalate_cons_cons]
          simp only [List.mem_append, List.mem_singleton, not_or]
          exact ⟨⟨first, other⟩, ih later⟩

theorem list_same_of_map {α β : Type} [BEq α] {text : α → β} {left right : List α}
    (apart : ∀ item ∈ left, ∀ other ∈ right, text item = text other → (item == other) = true)
    (same : left.map text = right.map text) : (left == right) = true := by
  induction left generalizing right with
  | nil =>
      cases right with
      | nil => rfl
      | cons other others => cases same
  | cons item rest ih =>
      cases right with
      | nil => cases same
      | cons other others =>
          obtain ⟨head, tail⟩ := List.cons.inj same
          obtain ⟨first, later⟩ := List.forall_mem_cons.mp apart
          rw [List.cons_beq_cons, Bool.and_eq_true]
          exact ⟨first other List.mem_cons_self head,
            ih (fun item member other member' => later item member other
              (List.mem_cons_of_mem _ member')) tail⟩

end TensorLang
