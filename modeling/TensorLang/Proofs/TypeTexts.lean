import TensorLang.Proofs.Blocks
import TensorLang.Proofs.Sameness
import TensorLang.Proofs.WellFormed
import TensorLang.Proofs.Words
import TensorLang.Ty.Text

set_option autoImplicit false

namespace TensorLang

section

variable {σ : Type} {setName : σ → String} {alphabet : Alphabet}

-- Sets whose names are identifiers and tell them apart.
structure Naming [BEq σ] (alphabet : Alphabet) (setName : σ → String) (allowed : σ → Prop) :
    Prop where
  identifier : ∀ set, allowed set → alphabet.IsIdentifier (setName set)
  apart : ∀ set, allowed set → ∀ other, allowed other → setName set = setName other →
    (set == other) = true

namespace IndexSet

theorem text_unmarked {index : IndexSet σ}
    (named : ∀ set, index = .set set → alphabet.IsIdentifier (setName set)) {mark : Char}
    (listed : mark ∈ typeMarks) (other : mark ≠ '*') : mark ∉ (index.text setName).toList := by
  cases index with
  | range size => exact toString_unmarked size listed
  | set set => exact (named set rfl).unmarked listed
  | dynamic => simpa [text] using other

-- Whether the first character of its text is a digit, and whether it is a letter.
def start : IndexSet σ → Bool × Bool
  | .range _ => (true, false)
  | .set _ => (false, true)
  | .dynamic => (false, false)

theorem text_starts {index : IndexSet σ}
    (named : ∀ set, index = .set set → alphabet.IsIdentifier (setName set)) :
    ∃ first rest, (index.text setName).toList = first :: rest ∧
      (first.isDigit, alphabet.letter first) = index.start := by
  cases index with
  | range size =>
      obtain ⟨first, rest, split, digit⟩ := toString_starts size
      exact ⟨first, rest, split, Prod.ext digit (alphabet.digits first digit)⟩
  | set set =>
      obtain ⟨first, rest, split, letter, _⟩ := named set rfl
      refine ⟨first, rest, split, Prod.ext (Bool.eq_false_iff.mpr fun digit => ?_) letter⟩
      cases (alphabet.digits first digit).symm.trans letter
  | dynamic => exact ⟨'*', [], by simp [text], Prod.ext rfl (alphabet.marks '*' (by decide))⟩

theorem same_of_text [BEq σ] {index other : IndexSet σ}
    (named : ∀ set, index = .set set → alphabet.IsIdentifier (setName set))
    (otherNamed : ∀ set, other = .set set → alphabet.IsIdentifier (setName set))
    (apart : ∀ set, index = .set set → ∀ alike, other = .set alike →
      setName set = setName alike → (set == alike) = true)
    (same : index.text setName = other.text setName) : (index == other) = true := by
  have starts : index.start = other.start := by
    obtain ⟨first, rest, split, begins⟩ := text_starts named
    obtain ⟨second, later, otherSplit, otherBegins⟩ := text_starts otherNamed
    rw [same, otherSplit] at split
    rw [← begins, ← otherBegins, (List.cons.inj split).1]
  cases index <;> cases other
  case range.range size count =>
    rw [toString_inj same]
    exact beq_self_eq_true count
  case set.set set alike => exact apart set rfl alike rfl same
  case dynamic.dynamic => rfl
  all_goals cases starts

end IndexSet

def columnMark (column : Bool) : List Char := if column then ['\x27'] else []

-- A text inside a longer one is followed by a parenthesis.
def Closes (after : List Char) : Prop := ∀ c ∈ after.head?, c = ')'

theorem closes_nil : Closes [] := fun _ found => absurd found (Option.not_mem_none _)

theorem closes_cons (rest : List Char) : Closes (')' :: rest) :=
  fun _ found => (Option.mem_some.mp found).symm

theorem mark_cancel {column other : Bool} {after later : List Char} (closes : Closes after)
    (laterCloses : Closes later)
    (same : columnMark column ++ after = columnMark other ++ later) :
    column = other ∧ after = later := by
  cases column with
  | false =>
      cases other with
      | false => exact ⟨rfl, same⟩
      | true =>
          rw [show after = '\x27' :: later from same] at closes
          cases closes '\x27' rfl
  | true =>
      cases other with
      | false =>
          rw [show later = '\x27' :: after from same.symm] at laterCloses
          cases laterCloses '\x27' rfl
      | true => exact ⟨rfl, (List.cons.inj same).2⟩

theorem scalar_cancel {component other : Scalar} {after later : List Char}
    (same : component.text.toList ++ after = other.text.toList ++ later) :
    component = other ∧ after = later := by
  cases component <;> cases other <;> simp_all [Scalar.text]

theorem scalar_not_tensor (component : Scalar) (after rest : List Char) :
    component.text.toList ++ after ≠ "tensor".toList ++ '[' :: rest := by
  cases component <;> simp [Scalar.text]

namespace TensorType

variable {allowed : σ → Prop} {left right : TensorType σ}

theorem text_scalar {tensor : TensorType σ} (flat : tensor.isScalar = true) :
    tensor.text setName = tensor.component.text := by
  rw [text, if_pos flat]

def outerText (setName : σ → String) (tensor : TensorType σ) : List Char :=
  List.intercalate [','] ((tensor.outer.map (IndexSet.text setName)).map String.toList)

theorem text_proper {tensor : TensorType σ} (proper : tensor.isScalar = false)
    (after : List Char) :
    (tensor.text setName).toList ++ after =
      "tensor".toList ++ '[' :: (tensor.outerText setName ++ ']' :: '(' ::
        ((tensor.block.text setName).toList ++ ')' :: (columnMark tensor.column ++ after))) := by
  rw [text, if_neg (ne_true_of_eq_false proper)]
  cases tensor.column <;>
    simp [String.toList_append, String.toList_intercalate, outerText, columnMark]

theorem outer_named [BEq σ] (naming : Naming alphabet setName allowed) {tensor : TensorType σ}
    (regular : tensor.Regular allowed) {index : IndexSet σ} (member : index ∈ tensor.outer)
    (set : σ) (same : index = .set set) :
    allowed set ∧ alphabet.IsIdentifier (setName set) := by
  obtain ⟨axis, axisMember, first⟩ := List.mem_filterMap.mp member
  have known := regular.sets axis axisMember set (same ▸ List.mem_of_mem_head? first)
  exact ⟨known, naming.identifier set known⟩

theorem outer_unmarked [BEq σ] (naming : Naming alphabet setName allowed) {tensor : TensorType σ}
    (regular : tensor.Regular allowed) {mark : Char} (listed : mark ∈ typeMarks)
    (other : mark ≠ '*') :
    ∀ text ∈ tensor.outer.map (IndexSet.text setName), mark ∉ text.toList := by
  intro text member
  obtain ⟨index, indexMember, rfl⟩ := List.mem_map.mp member
  have named := outer_named naming regular indexMember
  exact IndexSet.text_unmarked (fun set same => (named set same).2) listed other

theorem outer_ne_nil {tensor : TensorType σ} (regular : tensor.Regular allowed)
    (proper : tensor.isScalar = false) : tensor.outer ≠ [] := by
  intro empty
  have order := regular.outer_length
  rw [empty] at order
  rw [isScalar, List.isEmpty_iff_length_eq_zero.mpr order.symm] at proper
  cases proper

theorem outer_same_of_text [BEq σ] (naming : Naming alphabet setName allowed)
    (leftRegular : left.Regular allowed) (rightRegular : right.Regular allowed)
    (leftProper : left.isScalar = false) (rightProper : right.isScalar = false)
    (same : left.outerText setName = right.outerText setName) :
    (left.outer == right.outer) = true := by
  have comma : ',' ∈ typeMarks := by decide
  have texts := joined_inj (outer_unmarked naming leftRegular comma (by decide))
    (outer_unmarked naming rightRegular comma (by decide))
    (mt List.map_eq_nil_iff.mp (outer_ne_nil leftRegular leftProper))
    (mt List.map_eq_nil_iff.mp (outer_ne_nil rightRegular rightProper)) same
  refine list_same_of_map (fun index member other otherMember alike => ?_) texts
  have named := outer_named naming leftRegular member
  have otherNamed := outer_named naming rightRegular otherMember
  refine IndexSet.same_of_text (fun set same => (named set same).2)
    (fun set same => (otherNamed set same).2) (fun set indexed alike otherIndexed => ?_) alike
  exact naming.apart set (named set indexed).1 alike (otherNamed alike otherIndexed).1

theorem outerText_avoids [BEq σ] (naming : Naming alphabet setName allowed) {tensor : TensorType σ}
    (regular : tensor.Regular allowed) : ']' ∉ tensor.outerText setName := by
  refine joined_avoids (by decide) fun text member => ?_
  obtain ⟨shown, listed, rfl⟩ := List.mem_map.mp member
  exact outer_unmarked naming regular (by decide) (by decide) shown listed

-- A text can be cut off a longer one in a single way. Blocks are shown inside, so the text of a
-- block is followed by the end of the whole.
theorem text_cancel [BEq σ] [ReflBEq σ] (naming : Naming alphabet setName allowed)
    {left right : TensorType σ} (leftRegular : left.Regular allowed)
    (rightRegular : right.Regular allowed) {after later : List Char} (closes : Closes after)
    (laterCloses : Closes later)
    (same : (left.text setName).toList ++ after = (right.text setName).toList ++ later) :
    (left == right) = true ∧ after = later := by
  cases leftFlat : left.isScalar with
  | true =>
      cases rightFlat : right.isScalar with
      | true =>
          rw [text_scalar leftFlat, text_scalar rightFlat] at same
          obtain ⟨components, rest⟩ := scalar_cancel same
          refine ⟨?_, rest⟩
          rw [eq_scalar leftRegular leftFlat, eq_scalar rightRegular rightFlat, components]
          exact ReflBEq.rfl
      | false =>
          rw [text_scalar leftFlat, text_proper rightFlat] at same
          exact (scalar_not_tensor _ _ _ same).elim
  | false =>
      cases rightFlat : right.isScalar with
      | true =>
          rw [text_proper leftFlat, text_scalar rightFlat] at same
          exact (scalar_not_tensor _ _ _ same.symm).elim
      | false =>
          rw [text_proper leftFlat, text_proper rightFlat] at same
          have inner := (List.cons.inj (List.append_cancel_left same)).2
          obtain ⟨outers, rest⟩ := mark_splits (outerText_avoids naming leftRegular)
            (outerText_avoids naming rightRegular) inner
          obtain ⟨blocks, rest⟩ := text_cancel naming (block_regular leftRegular)
            (block_regular rightRegular) (closes_cons _) (closes_cons _)
            (List.cons.inj rest).2
          obtain ⟨columns, rest⟩ := mark_cancel closes laterCloses (List.cons.inj rest).2
          exact ⟨same_of_blocks leftRegular rightRegular leftFlat rightFlat columns
            (outer_same_of_text naming leftRegular rightRegular leftFlat rightFlat outers) blocks,
            rest⟩
termination_by left.nesting + left.order
decreasing_by exact left.block_depth leftFlat

end TensorType

end

theorem Element.same_of_name {record other : Element} (names : record.name = other.name) :
    (record == other) = true :=
  show (record.name == other.name) = true from beq_iff_eq.mpr names

def IndexSet.set? {σ : Type} : IndexSet σ → Option σ
  | .set index => some index
  | _ => none

namespace Ty

def sets : Ty → List Var
  | .tensor shape => shape.axes.flatten.filterMap IndexSet.set?
  | .set member endpoints => member.sets ++ endpoints
  | .tuple member _ => member.sets
  | .element _ => []

def elementNames : Ty → List String
  | .tensor _ => []
  | .set member _ | .tuple member _ => member.elementNames
  | .element record => [record.name]

-- Identifiers name the elements, but not those that stand for scalar types.
def Named (alphabet : Alphabet) (type : Ty) : Prop :=
  ∀ name ∈ type.elementNames, alphabet.IsIdentifier name ∧ name ∉ ["int", "float", "bool"]

def endpointsText (endpoints : List Var) : List Char :=
  if endpoints.isEmpty then []
  else '(' :: (List.intercalate [','] ((endpoints.map Var.name).map String.toList) ++ [')'])

theorem text_set (member : Ty) (endpoints : List Var) :
    (Ty.set member endpoints).text.toList =
      "set".toList ++ '\x7b' :: (member.text.toList ++ '\x7d' :: endpointsText endpoints) := by
  rw [text, endpointsText]
  split <;> simp [String.toList_append, String.toList_intercalate]

theorem text_tuple (member : Ty) (length : Nat) :
    (Ty.tuple member length).text.toList =
      '(' :: (member.text.toList ++ '*' :: ((toString length).toList ++ [')'])) := by
  rw [text]
  simp [String.toList_append]

-- The word that a text begins with, and the mark behind it.
def word : Ty → String
  | .tensor shape => if shape.isScalar then shape.component.text else "tensor"
  | .set _ _ => "set"
  | .tuple _ _ => ""
  | .element record => record.name

def mark? : Ty → Option Char
  | .tensor shape => if shape.isScalar then none else some '['
  | .set _ _ => some '\x7b'
  | .tuple _ _ => some '('
  | .element _ => none

variable {alphabet : Alphabet} {first second type : Ty}

theorem word_unmarked (named : type.Named alphabet) : ∀ c ∈ type.word.toList, c ∉ typeMarks := by
  cases type with
  | tensor shape =>
      rw [word]
      split
      · cases shape.component <;> simp [Scalar.text, typeMarks]
      · simp [typeMarks]
  | set member endpoints => simp [word, typeMarks]
  | tuple member length => exact fun c member => absurd member List.not_mem_nil
  | element record =>
      intro c member listed
      exact (named record.name List.mem_cons_self).1.unmarked listed member

theorem mark_listed : ∀ c ∈ type.mark?, c ∈ typeMarks := by
  cases type with
  | tensor shape =>
      rw [mark?]
      split <;> simp [typeMarks]
  | set member endpoints => simp [mark?, typeMarks]
  | tuple member length => simp [mark?, typeMarks]
  | element record => exact fun c found => absurd found (Option.not_mem_none c)

theorem text_begins (type : Ty) :
    ∃ rest, type.text.toList = type.word.toList ++ rest ∧ rest.head? = type.mark? := by
  cases type with
  | tensor shape =>
      rw [text, word, mark?]
      cases proper : shape.isScalar with
      | true => exact ⟨[], by rw [TensorType.text_scalar proper]; simp, rfl⟩
      | false =>
          have whole : (shape.text Var.name).toList ++ [] = _ := TensorType.text_proper proper []
          rw [List.append_nil] at whole
          exact ⟨_, whole, rfl⟩
  | set member endpoints => exact ⟨_, text_set member endpoints, rfl⟩
  | tuple member length => exact ⟨_, text_tuple member length, rfl⟩
  | element record => exact ⟨[], (List.append_nil _).symm, rfl⟩

theorem begin_alike (named : first.Named alphabet) (otherNamed : second.Named alphabet)
    (texts : first.text = second.text) :
    first.word = second.word ∧ first.mark? = second.mark? := by
  obtain ⟨rest, split, begins⟩ := text_begins first
  obtain ⟨others, otherSplit, otherBegins⟩ := text_begins second
  rw [texts, otherSplit] at split
  obtain ⟨words, rests⟩ := front_cancel (· ∉ typeMarks) (word_unmarked otherNamed)
    (word_unmarked named) (fun c found plain => plain (mark_listed c (otherBegins ▸ found)))
    (fun c found plain => plain (mark_listed c (begins ▸ found))) split
  refine ⟨(String.toList_injective words).symm, ?_⟩
  rw [← begins, ← otherBegins, rests]

theorem tensor_mark_ne {shape : TensorType Var} {mark : Char} (other : mark ≠ '[') :
    (Ty.tensor shape).mark? ≠ some mark := by
  rw [mark?]
  split
  · exact nofun
  · exact fun same => other (Option.some.inj same).symm

theorem element_not_tensor {record : Element} {shape : TensorType Var}
    (named : (Ty.element record).Named alphabet)
    (words : (Ty.element record).word = (Ty.tensor shape).word)
    (marks : (Ty.element record).mark? = (Ty.tensor shape).mark?) : False := by
  have unreserved := (named record.name List.mem_cons_self).2
  rw [show record.name = (Ty.tensor shape).word from words, word] at unreserved
  rw [mark?, mark?] at marks
  split at marks
  · rename_i flat
    rw [if_pos flat] at unreserved
    cases component : shape.component <;> simp [component, Scalar.text] at unreserved
  · cases marks

theorem regular_over_shown {shape : TensorType Var} {shown : List Var}
    (regular : shape.Regular Var.IsSet) (listed : ∀ set ∈ (Ty.tensor shape).sets, set ∈ shown) :
    shape.Regular (· ∈ shown) := by
  refine ⟨regular.column, regular.nonempty, regular.uniform, fun axis member set indexed => ?_⟩
  have among : IndexSet.set set ∈ shape.axes.flatten := List.mem_flatten.mpr ⟨axis, member, indexed⟩
  exact listed set (List.mem_filterMap.mpr ⟨.set set, among, rfl⟩)

theorem tensors_told_apart {left right : TensorType Var}
    (leftRegular : left.Regular Var.IsSet) (rightRegular : right.Regular Var.IsSet)
    (naming : Naming alphabet Var.name (· ∈ (Ty.tensor left).sets ++ (Ty.tensor right).sets))
    (texts : left.text Var.name = right.text Var.name) : (left == right) = true := by
  have leftShown := regular_over_shown leftRegular
    fun _ => List.mem_append_left (Ty.tensor right).sets
  have rightShown := regular_over_shown rightRegular
    fun _ => List.mem_append_right (Ty.tensor left).sets
  exact (TensorType.text_cancel naming leftShown rightShown closes_nil closes_nil
    (by rw [texts])).1

theorem endpoints_told_apart {allowed : Var → Prop} {ends otherEnds : List Var}
    (naming : Naming alphabet Var.name allowed) (known : ∀ var ∈ ends, allowed var)
    (otherKnown : ∀ var ∈ otherEnds, allowed var)
    (texts : endpointsText ends = endpointsText otherEnds) : (ends == otherEnds) = true := by
  have plain {vars : List Var} (allowedVars : ∀ var ∈ vars, allowed var) :
      ∀ name ∈ vars.map Var.name, ',' ∉ name.toList := by
    intro name member
    obtain ⟨var, listed, rfl⟩ := List.mem_map.mp member
    exact (naming.identifier var (allowedVars var listed)).unmarked (by decide)
  cases ends with
  | nil =>
      cases otherEnds with
      | nil => rfl
      | cons other others => cases texts
  | cons var rest =>
      cases otherEnds with
      | nil => cases texts
      | cons other others =>
          have names := joined_inj (plain known) (plain otherKnown) (List.cons_ne_nil _ _)
            (List.cons_ne_nil _ _) (List.append_cancel_right (List.cons.inj texts).2)
          refine list_same_of_map (fun item member alike alikeMember same => ?_) names
          exact naming.apart item (known item member) alike (otherKnown alike alikeMember) same

theorem sets_told_apart {record other : Element} {ends otherEnds : List Var}
    (named : (Ty.set (.element record) ends).Named alphabet)
    (otherNamed : (Ty.set (.element other) otherEnds).Named alphabet)
    (naming : Naming alphabet Var.name (· ∈ ends ++ otherEnds))
    (texts : (Ty.set (.element record) ends).text = (Ty.set (.element other) otherEnds).text) :
    (Ty.set (.element record) ends == Ty.set (.element other) otherEnds) = true := by
  have whole := congrArg String.toList texts
  rw [text_set, text_set] at whole
  obtain ⟨names, endTexts⟩ := mark_splits
    ((named record.name List.mem_cons_self).1.unmarked (by decide))
    ((otherNamed other.name List.mem_cons_self).1.unmarked (by decide))
    (List.cons.inj (List.append_cancel_left whole)).2
  refine (Bool.and_eq_true _ _).mpr ⟨Element.same_of_name (String.toList_injective names), ?_⟩
  exact endpoints_told_apart naming (fun _ => List.mem_append_left _)
    (fun _ => List.mem_append_right _) endTexts

theorem tuples_told_apart {record other : Element} {length count : Nat}
    (named : (Ty.tuple (.element record) length).Named alphabet)
    (otherNamed : (Ty.tuple (.element other) count).Named alphabet)
    (texts : (Ty.tuple (.element record) length).text = (Ty.tuple (.element other) count).text) :
    (Ty.tuple (.element record) length == Ty.tuple (.element other) count) = true := by
  have whole := congrArg String.toList texts
  rw [text_tuple, text_tuple] at whole
  obtain ⟨names, lengths⟩ := mark_splits
    ((named record.name List.mem_cons_self).1.unmarked (by decide))
    ((otherNamed other.name List.mem_cons_self).1.unmarked (by decide)) (List.cons.inj whole).2
  refine (Bool.and_eq_true _ _).mpr ⟨Element.same_of_name (String.toList_injective names), ?_⟩
  have counts := toString_inj (String.toList_injective (List.append_cancel_right lengths))
  exact beq_iff_eq.mpr counts

end Ty

/--
Well-formed types with one text are the same type: of one kind, with the same index sets at every
level of blocks, the same orientation, the same element, endpoints and length. Identifiers name the
sets and elements, sets are told apart by name, and no element has a scalar type's name.
-/
theorem displayed_types_unambiguous (alphabet : Alphabet) {elements others : List Element}
    {limit otherLimit : ℕ∞} {first second : Ty} (valid : first.WellFormed elements limit)
    (otherValid : second.WellFormed others otherLimit) (named : first.Named alphabet)
    (otherNamed : second.Named alphabet)
    (naming : Naming alphabet Var.name (· ∈ first.sets ++ second.sets))
    (texts : first.text = second.text) : (first == second) = true := by
  obtain ⟨words, marks⟩ := Ty.begin_alike named otherNamed texts
  cases valid with
  | tensor shape regular deep =>
      cases otherValid with
      | tensor other otherRegular otherDeep =>
          exact Ty.tensors_told_apart regular otherRegular naming texts
      | set other ends registered few sets deep =>
          exact (Ty.tensor_mark_ne (by decide) marks).elim
      | tuple other count registered positive =>
          exact (Ty.tensor_mark_ne (by decide) marks).elim
      | element other registered =>
          exact (Ty.element_not_tensor otherNamed words.symm marks.symm).elim
  | set record endpoints registered few sets deep =>
      cases otherValid with
      | tensor other otherRegular otherDeep =>
          exact (Ty.tensor_mark_ne (by decide) marks.symm).elim
      | set other ends otherRegistered otherFew otherSets otherDeep =>
          exact Ty.sets_told_apart named otherNamed naming texts
      | tuple => cases marks
      | element => cases marks
  | tuple record length registered positive =>
      cases otherValid with
      | tensor other otherRegular otherDeep =>
          exact (Ty.tensor_mark_ne (by decide) marks.symm).elim
      | set => cases marks
      | tuple other count otherRegistered otherPositive =>
          exact Ty.tuples_told_apart named otherNamed texts
      | element => cases marks
  | element record registered =>
      cases otherValid with
      | tensor other otherRegular otherDeep =>
          exact (Ty.element_not_tensor named words marks).elim
      | set => cases marks
      | tuple => cases marks
      | element other otherRegistered => exact Element.same_of_name texts

def Alphabet.latin : Alphabet where
  letter c := ('a' ≤ c && c ≤ 'z') || ('A' ≤ c && c ≤ 'Z')
  digits c digit := by
    simp only [Char.isDigit, Bool.and_eq_true, decide_eq_true_eq, ge_iff_le] at digit
    simp only [Bool.or_eq_false_iff, Bool.and_eq_false_iff, decide_eq_false_iff_not, Char.le_def]
    grind
  marks := by simp [typeMarks]

-- A column of blocks is a column of columns in its text. Its points have a field in one of the two
-- types only, and that does not show.
theorem blocked_columns_alike :
    let bare : Element := ⟨"Point", []⟩
    let surveyed : Element := ⟨"Point", [⟨"height", .float⟩]⟩
    let points (record : Element) : Var := ⟨1, "points", some (.set (.element record) [])⟩
    let column (record : Element) : Ty := .tensor ⟨.float, [[.set (points record), .range 3]], true⟩
    (column bare).text = "tensor[points](tensor[3](float)')'" ∧
      (column surveyed).text = (column bare).text ∧ (column bare == column surveyed) = true := by
  intro bare surveyed points column
  have shown : (column bare).text = "tensor[points](tensor[3](float)')'" := by decide +kernel
  have alike : (column surveyed).text = (column bare).text := by decide +kernel
  have points_set (record : Element) : (points record).WellFormedSet [record] ⊤ := by
    refine ⟨⟨_, _, rfl⟩, fun type typed => ?_⟩
    cases typed
    exact .set record [] (List.find?_cons_of_pos (beq_self_eq_true record.name))
      (ENat.natCast_lt_top 0) (by simp) (by simp)
  have valid (record : Element) : (column record).WellFormed [record] ⊤ := by
    refine Ty.wellFormed_tensor.mpr (TensorType.regular_of_axes .float _ true 2 (fun _ => rfl)
      (by decide) (by simp) fun axis member set indexed => ?_)
    obtain rfl := List.mem_singleton.mp member
    have points_only : set = points record := by simpa using indexed
    exact points_only ▸ points_set record
  have named (record : Element) : (column record).Named .latin := fun _ member => absurd member List.not_mem_nil
  have spelled : Alphabet.latin.IsIdentifier "points" :=
    ⟨'p', ['o', 'i', 'n', 't', 's'], rfl, rfl, by simp [Alphabet.latin]⟩
  have listed (set : Var) (member : set ∈ (column bare).sets ++ (column surveyed).sets) :
      set.id = 1 ∧ set.name = "points" := by
    rcases List.mem_append.mp member with first | second
    · rw [List.mem_singleton.mp first]
      exact ⟨rfl, rfl⟩
    · rw [List.mem_singleton.mp second]
      exact ⟨rfl, rfl⟩
  have naming : Naming .latin Var.name (· ∈ (column bare).sets ++ (column surveyed).sets) := by
    refine ⟨fun set member => (listed set member).2 ▸ spelled, fun set member other alike _ => ?_⟩
    change (set.id == other.id) = true
    rw [(listed set member).1, (listed other alike).1]
    rfl
  exact ⟨shown, alike, displayed_types_unambiguous .latin (valid bare) (valid surveyed)
    (named bare) (named surveyed) naming alike.symm⟩

end TensorLang
