import TensorLang.Proofs.Entries
import TensorLang.Proofs.Settled
import TensorLang.Proofs.SoundReads

set_option autoImplicit false

namespace TensorLang

open Logged

theorem expect_accepts {accepts : List Ty → Bool} {cause : List Ty → Mismatch} {span : Span}
    {types : List Ty}
    (clean : (Operand.expect accepts cause ⟨span, some types⟩).log.errors = []) :
    accepts types = true := by
  unfold Operand.expect at clean
  dsimp only at clean
  rw [errors_require] at clean
  by_cases fits : accepts types = true
  · exact fits
  · rw [if_neg fits] at clean
    exact (nomatch clean)

theorem numeric_gives (side : Side) (arithmetic : Arithmetic) (span : Span) (types : List Ty) :
    (Operand.numeric side arithmetic ⟨span, some types⟩).Gives := by
  intro clean
  obtain ⟨accepted, _⟩ := bind_clean.mp clean
  exact expect_accepts accepted

theorem product_typed {left right : TensorType Var}
    (faultless : (left.productOf right).fault? = none) :
    (left.productOf right).type?.isSome = true := by
  simp only [TensorType.productOf, TensorType.productByAxes] at faultless ⊢
  repeat' split
  all_goals simp_all [Product.typed, Product.faulty]

theorem combine_gives (arithmetic : Arithmetic) (span : Span) (left right : TensorType Var) :
    (arithmetic.combine span left right).Gives := by
  cases arithmetic with
  | elementwise =>
      unfold Arithmetic.combine
      dsimp only
      cases left.elementwise? right with
      | none => exact gives_fail _ _
      | some shape => exact gives_pure _
  | product =>
      rw [combine_product_promised]
      refine gives_bind fun clean => ?_
      cases fault : (left.productOf right).fault? with
      | some found =>
          rw [fault] at clean
          exact (nomatch clean)
      | none =>
          obtain ⟨shape, typed⟩ := Option.isSome_iff_exists.mp (product_typed fault)
          rw [typed]
          exact gives_pure _
  | quotient =>
      unfold Arithmetic.combine
      dsimp only
      cases left.quotient right with
      | error fault => exact gives_fail _ _
      | ok shape => exact gives_pure _

theorem arithmetic_gives (arithmetic : Arithmetic) (span leftSpan rightSpan : Span)
    (left right : List Ty) :
    (arithmetic.check span ⟨leftSpan, some left⟩ ⟨rightSpan, some right⟩).Gives := by
  refine gives_bind_some (numeric_gives .left arithmetic leftSpan left) fun leftShape _ => ?_
  refine gives_bind_some (numeric_gives .right arithmetic rightSpan right) fun rightShape _ => ?_
  exact combine_gives arithmetic span leftShape rightShape

theorem binary_gives (operator : BinaryOp) (span leftSpan rightSpan : Span)
    (left right : List Ty) :
    (operator.check span ⟨leftSpan, some left⟩ ⟨rightSpan, some right⟩).Gives := by
  cases operator with
  | or | and | xor => exact fun _ => rfl
  | add | sub | elementMul | elementDiv => exact arithmetic_gives .elementwise _ _ _ _ _
  | mul => exact arithmetic_gives .product _ _ _ _ _
  | div => exact arithmetic_gives .quotient _ _ _ _ _
  | power => exact gives_fail _ _

theorem unary_gives (operator : UnaryOp) (span : Span) (types : List Ty) :
    (operator.check ⟨span, some types⟩).Gives := by
  cases operator with
  | not => exact fun _ => rfl
  | neg =>
      refine gives_bind fun clean => ?_
      have numeric : (numericTensor? types).isSome = true := expect_accepts clean
      intro _
      simp [numeric]

theorem transpose_gives (span : Span) (types : List Ty) :
    (checkTranspose ⟨span, some types⟩).Gives := by
  rw [check_transpose_promised]
  refine gives_bind fun clean => ?_
  obtain ⟨shape, typed⟩ := Option.isSome_iff_exists.mp (expect_accepts clean)
  change (Pure.pure (Outcome.ofTensor? (transposedTypes? types)) : Logged Outcome).Gives
  rw [typed]
  exact gives_pure _

theorem compare_all_clean {first? : Outcome} {visits : List Visit}
    (clean : (compareAll first? visits).log.errors = []) :
    ∀ visit ∈ visits, visit.check.log.errors = [] := by
  induction visits generalizing first? with
  | nil => exact fun _ member => (nomatch member)
  | cons visit rest ih =>
      obtain ⟨operand, later⟩ := bind_clean.mp clean
      obtain ⟨_, later⟩ := bind_clean.mp later
      intro other member
      rcases List.mem_cons.mp member with same | tail
      · rw [same]
        exact (bind_clean.mp operand).1
      · exact ih later other tail

theorem resolve_routine_gives (table : SymbolTable) (name : Name Node) :
    (name.resolveRoutine table).Gives := by
  rw [name.resolve_routine_promised]
  cases table.routine? name.text with
  | none => exact gives_fail _ _
  | some routine => exact gives_pure _

theorem call_gives (table : SymbolTable) (span : Span) (name : Name Node)
    (arguments : List Visit) : (checkCall table span name arguments).Gives := by
  refine gives_bind fun _ => ?_
  refine gives_bind_some (resolve_routine_gives table name) fun routine _ => ?_
  exact gives_bind fun _ => gives_pure _

theorem map_gives (table : SymbolTable) (span : Span) (name : Name Node) (partials : List Visit)
    (target : Name Node) : (checkMap table span name partials target).Gives := by
  refine gives_bind fun _ => ?_
  refine gives_bind_some (resolve_routine_gives table name) fun routine _ => ?_
  refine gives_bind fun _ => ?_
  cases (target.resolveSet table fun _ => .mapTarget).value with
  | none => exact gives_pure _
  | some set => exact gives_bind fun _ => gives_pure _

theorem read_gives (span baseSpan : Span) (types : List Ty) (positions : List Position) :
    (checkRead span ⟨baseSpan, some types⟩ positions).Gives := by
  match types with
  | [.tensor shape] =>
      change (shape.checkRead span positions).Gives
      simp only [TensorType.checkRead]
      by_cases counts : shape.order = positions.length
      · rw [if_pos counts]
        exact gives_bind fun _ => gives_pure _
      · rw [if_neg counts]
        exact gives_fail _ _
  | [.tuple member length] => exact gives_bind fun _ => gives_pure _
  | [.set ..] | [.element _] | [] => exact gives_fail _ _
  | first :: second :: rest => cases first <;> exact gives_fail _ _

theorem operands_clean {α : Type} {visits : List Visit} {body : Visit → Logged α}
    (kept : ∀ visit, (body visit).log.errors = [] → visit.check.log.errors = [])
    (clean : (visits.mapM body).log.errors = []) :
    ∀ visit ∈ visits, visit.check.log.errors = [] := by
  rw [errors_mapM, List.flatMap_eq_nil_iff] at clean
  exact fun visit member => kept visit (clean visit member)

theorem call_clean {table : SymbolTable} {span : Span} {name : Name Node}
    {arguments : List Visit} (clean : (checkCall table span name arguments).log.errors = []) :
    ∀ visit ∈ arguments, visit.check.log.errors = [] :=
  operands_clean (fun _ operand => (bind_clean.mp operand).1) (bind_clean.mp clean).1

theorem map_clean {table : SymbolTable} {span : Span} {name : Name Node}
    {partials : List Visit} {target : Name Node}
    (clean : (checkMap table span name partials target).log.errors = []) :
    ∀ visit ∈ partials, visit.check.log.errors = [] := by
  refine operands_clean (fun visit passed => ?_) (bind_clean.mp clean).1
  obtain ⟨operand, _⟩ := bind_clean.mp passed
  exact (bind_clean.mp operand).1

def Position.Clean : Position → Prop
  | .slice _ => True
  | .at visit => visit.check.log.errors = []

-- A read goes through all positions, and none of them is at fault.
structure Visits (positions : List Position) (log : Log) : Prop where
  entries : log.entries = positions.flatMap Position.entries
  clean : ∀ position ∈ positions, position.Clean

theorem read_axis_clean {axis : Axis Var} {leading : IndexSet Var} {position : Position}
    (clean : (position.readAxis axis leading).log.errors = []) : position.Clean := by
  cases position with
  | slice span => trivial
  | «at» visit =>
      obtain ⟨operand, _⟩ := bind_clean.mp clean
      exact (bind_clean.mp operand).1

theorem tensor_read_visits {allowed : Var → Prop} {tensor : TensorType Var}
    (regular : tensor.Regular allowed) (span : Span) (positions : List Position)
    (clean : (tensor.checkRead span positions).log.errors = []) :
    Visits positions (tensor.checkRead span positions).log := by
  by_cases counts : tensor.order = positions.length
  · have visited := Log.View.entries.part_tensor_read regular span positions
    rw [if_pos counts, entries_ofPosition] at visited
    refine ⟨visited, fun position member => ?_⟩
    rw [TensorType.checkRead, if_pos counts] at clean
    obtain ⟨steps, _⟩ := bind_clean.mp clean
    rw [errors_mapM, List.flatMap_eq_nil_iff] at steps
    rw [← regular.steps_fst counts] at member
    obtain ⟨step, passed, rfl⟩ := List.mem_map.mp member
    exact read_axis_clean (steps step passed)
  · rw [TensorType.checkRead, if_neg counts] at clean
    cases clean

theorem tuple_read_visits (span : Span) (positions : List Position)
    (clean : (checkTupleRead span positions).log.errors = []) :
    Visits positions (checkTupleRead span positions).log := by
  match positions with
  | [.at visit] =>
      have visited := Log.View.entries.part_tuple_read span [.at visit]
      rw [List.length_singleton, if_pos rfl, entries_ofPosition] at visited
      obtain ⟨operand, _⟩ := bind_clean.mp clean
      refine ⟨visited, fun position member => ?_⟩
      rw [List.mem_singleton.mp member]
      exact (bind_clean.mp operand).1
  | [.slice span] => cases clean
  | [] => cases clean
  | first :: second :: rest => cases first <;> cases clean

theorem read_visits {elements : List Element} {limit : ℕ∞} (span baseSpan : Span)
    {types : List Ty} (valid : Outcome.WellFormed elements limit (some types))
    (positions : List Position)
    (clean : (checkRead span ⟨baseSpan, some types⟩ positions).log.errors = []) :
    Visits positions (checkRead span ⟨baseSpan, some types⟩ positions).log := by
  match types with
  | [.tensor shape] =>
      have regular := Ty.wellFormed_tensor.mp (valid.single rfl)
      exact tensor_read_visits regular span positions clean
  | [.tuple member length] =>
      have read := tuple_read_visits span positions (bind_clean.mp clean).1
      refine ⟨?_, read.clean⟩
      simpa [checkRead] using read.entries
  | [.set ..] | [.element _] | [] => cases clean
  | first :: second :: rest => cases first <;> cases clean

theorem field_name_gives (record : Element) (name : Name Node) :
    (record.checkField name).Gives := by
  simp only [Element.checkField]
  cases record.field? name.text with
  | none => exact gives_fail _ _
  | some field => exact gives_pure _

theorem leading_set_gives {table : SymbolTable} {set? : Option (Name Node)} {base : Operand}
    (names : base.Names table set?) {type : Ty} (typed : base.types? = some [type]) :
    (leadingSet table set?).Gives := by
  cases set? with
  | none => exact gives_pure _
  | some name =>
      obtain ⟨symbol, found, _⟩ := names name type rfl typed
      unfold leadingSet
      dsimp only
      rw [SymbolTable.symbol_promised found]
      exact gives_pure _

theorem field_gives {table : SymbolTable} {elements : List Element} {limit : ℕ∞}
    (span baseSpan : Span) {types : List Ty} {set? : Option (Name Node)}
    (names : Operand.Names table set? ⟨baseSpan, some types⟩)
    (valid : Outcome.WellFormed elements limit (some types)) (name : Name Node) :
    (checkField table span ⟨baseSpan, some types⟩ set? name).Gives := by
  match types with
  | [.element record] =>
      refine gives_bind_some (field_name_gives record name) fun field _ => ?_
      exact gives_pure _
  | [.set member endpoints] =>
      cases valid.single rfl with
      | set record _ registered few sets deep =>
          change (Logged.promised (.ok record) >>= _).Gives
          rw [Logged.promised_ok, pure_bind]
          refine gives_bind_some (field_name_gives record name) fun field _ => ?_
          dsimp only
          simp only [Field.ofMembers]
          split
          · refine gives_bind_some (leading_set_gives names rfl) fun leading _ => ?_
            exact gives_pure _
          · exact gives_fail _ _
  | [.tensor _] | [.tuple ..] | [] => exact gives_fail _ _
  | first :: second :: rest => cases first <;> exact gives_fail _ _

end TensorLang
