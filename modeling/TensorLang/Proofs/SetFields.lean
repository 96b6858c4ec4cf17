import TensorLang.Proofs.Blocks
import TensorLang.Proofs.Reads
import TensorLang.Proofs.Sameness
import TensorLang.Proofs.SoundDefinitions

set_option autoImplicit false

namespace TensorLang

namespace TensorType

variable {σ : Type} {allowed : σ → Prop}

-- The leading index set is all that a vector over a set adds to the tensor of one member.
theorem block_overSet {tensor : TensorType σ} (regular : tensor.Regular allowed)
    (small : tensor.order ≤ 1) (leading : IndexSet σ) :
    (tensor.overSet leading).block = tensor := by
  obtain ⟨component, axes, column⟩ := tensor
  match axes with
  | [] =>
      obtain rfl := scalar_of_axes regular
      rfl
  | [axis] =>
      have filled : 0 < axis.length := List.length_pos_iff.mpr (regular.nonempty axis (by simp))
      exact block_of_nested (Nat.succ_lt_succ filled)
  | _ :: _ :: _ => exact absurd small (by simp [order])

end TensorType

-- What indexes the members of a set: the variable that names it, or else a number of them that is
-- not known before the program runs.
inductive IndexSet.Over (table : SymbolTable) (member : Ty) :
    Option (Name Node) → IndexSet Var → Prop where
  | named (name : Name Node) (symbol : Symbol) (endpoints : List Var)
      (bound : table.symbol? name.text = some symbol)
      (typed : symbol.var.type? = some (.set member endpoints)) :
      IndexSet.Over table member (some name) (.set symbol.var)
  | unnamed : IndexSet.Over table member none .dynamic

variable {table : SymbolTable} {limit : ℕ∞} {member : Ty} {endpoints : List Var}
  {set? : Option (Name Node)} {leading : IndexSet Var}

theorem leading_set_over {base : Operand} (names : base.Names table set?)
    (typed : base.types? = some [.set member endpoints]) :
    ∃ leading, leading.Over table member set? ∧ leadingSet table set? = pure (some leading) := by
  cases set? with
  | none => exact ⟨.dynamic, .unnamed, rfl⟩
  | some name =>
      obtain ⟨symbol, bound, known⟩ := names name _ rfl typed
      refine ⟨.set symbol.var, .named name symbol endpoints bound known, ?_⟩
      unfold leadingSet
      dsimp only
      rw [SymbolTable.symbol_promised bound]
      rfl

theorem member_suits_index (overMembers : leading.Over table member set?) (span : Span) :
    (leading.checkIndex span member).log.errors = [] := by
  cases overMembers with
  | unnamed => rfl
  | named name symbol endpoints bound typed =>
      rw [IndexSet.checkIndex, Var.set_type_promised typed, Logged.promised_ok, pure_bind]
      dsimp only
      rw [beq_self_eq_true member, Bool.or_true]
      rfl

theorem field_of_members_over {base : Operand} (names : base.Names table set?)
    (typed : base.types? = some [.set member endpoints]) (span : Span) {field : Field}
    {shape : TensorType Var} (tensor : field.type = .tensor shape) (small : shape.order ≤ 1) :
    ∃ leading, leading.Over table member set? ∧
      field.ofMembers table span set? = pure (.tensor (shape.overSet leading)) := by
  obtain ⟨leading, overMembers, known⟩ := leading_set_over names typed
  have vector : field.type.tensor?.filter (·.order ≤ 1) = some shape := by
    rw [tensor]
    exact Option.filter_some_pos (decide_eq_true small)
  refine ⟨leading, overMembers, ?_⟩
  rw [Field.ofMembers, vector]
  dsimp only
  rw [known]
  rfl

theorem check_field_found {record : Element} {name : Name Node} {field : Field}
    (found : record.field? name.text = some field) :
    record.checkField name = pure (some field) := by
  rw [Element.checkField, found]

theorem check_set_field {baseSpan : Span} {record : Element} {name : Name Node} {field : Field}
    (found : record.field? name.text = some field) (span : Span) :
    checkField table span ⟨baseSpan, .one (.set (.element record) endpoints)⟩ set? name =
      field.ofMembers table span set? := by
  change (Logged.promised (.ok record) >>= _) = _
  rw [Logged.promised_ok, pure_bind]
  dsimp only
  rw [check_field_found found, pure_bind]

theorem check_own_field {baseSpan : Span} {record : Element} {name : Name Node} {field : Field}
    (found : record.field? name.text = some field) (span : Span) :
    checkField table span ⟨baseSpan, .one (.element record)⟩ set? name =
      pure (.one field.type) := by
  change (record.checkField name >>= _) = _
  rw [check_field_found found, pure_bind]
  rfl

theorem vector_read {tensor : TensorType Var} {nested : Axis Var} {visit : Visit} {found : Ty}
    (vector : tensor.axes = [leading :: nested]) (typed : visit.check.value = .one found)
    (suits : (leading.checkIndex visit.span found).log.errors = []) (span : Span) :
    (tensor.checkRead span [.at visit]).value = .tensor tensor.block ∧
      (tensor.checkRead span [.at visit]).log.errors = visit.check.log.errors := by
  have counts : tensor.order = [Position.at visit].length := by rw [TensorType.order, vector]; rfl
  have outer : tensor.outer = [leading] := by rw [TensorType.outer, vector]; rfl
  constructor
  · simp [TensorType.checkRead, counts, vector, outer, TensorType.readKeeping, Position.keep]
  · rw [check_read_errors span counts, vector, outer]
    simp [Position.readAxis, Visit.operand, Operand.checkIndex, typed, Outcome.one, suits]

section

variable {record : Element} {name : Name Node} {field : Field}

theorem infer_own_field {expression : Expr Node}
    (typed : (expression.infer table .read).value = .one (.element record))
    (found : record.field? name.text = some field) (node : Node) :
    ((Expr.field node expression name).infer table .read).value = .one field.type := by
  simp [Expr.infer, typed, check_own_field found, Mode.ofBase]

theorem infer_set_field {base : Expr Node} {shape : TensorType Var}
    (sets : (base.infer table .read).value = .one (.set (.element record) endpoints))
    (found : record.field? name.text = some field) (tensor : field.type = .tensor shape)
    (small : shape.order ≤ 1) (node : Node) :
    let whole := (Expr.field node base name).infer table .read
    whole.log.errors = (base.infer table .read).log.errors ∧
      ∃ leading, leading.Over table (.element record) base.bare.ident? ∧
        whole.value = .tensor (shape.overSet leading) := by
  obtain ⟨leading, overMembers, known⟩ :=
    field_of_members_over (infer_names table .read base) sets node.span tensor small
  have checked : checkField table node.span
      ⟨base.span, .one (.set (.element record) endpoints)⟩ base.bare.ident? name =
        Pure.pure (.tensor (shape.overSet leading)) :=
    (check_set_field found node.span).trans known
  refine ⟨?_, leading, overMembers, ?_⟩
  · simp [Expr.infer, sets, checked, Mode.ofBase]
  · simp [Expr.infer, sets, checked, Mode.ofBase]

theorem infer_bare_errors (table : SymbolTable) (mode : Mode) (expression : Expr Node) :
    (expression.infer table mode).log.errors = (expression.bare.infer table mode).log.errors := by
  match expression with
  | .paren node inner =>
      rw [Expr.bare, ← infer_bare_errors table mode inner]
      simp [Expr.infer]
  | .binary .. | .compare .. | .unary .. | .transpose .. | .call .. | .map .. | .read ..
  | .field .. | .int .. | .float .. | .bool .. | .dense _ | .ident _ => rfl

theorem named_base_silent {base : Expr Node} {type : Ty} (named : base.bare.ident?.isSome = true)
    (typed : (base.infer table .read).value = .one type) :
    (base.infer table .read).log.errors = [] := by
  obtain ⟨set, named⟩ := Option.isSome_iff_exists.mp named
  obtain ⟨symbol, bound, known⟩ := infer_names table .read base set type named typed
  rw [infer_bare_errors]
  cases bare : base.bare with
  | ident found =>
      rw [bare] at named
      cases Option.some.inj named
      exact (infer_bound bound known).2
  | _ => rw [bare] at named; exact (nomatch named)

end

/--
The members of a set have a scalar or a vector as one of their fields. To read the field of the set
at a member is to read the member's own field: the types are the same, and nothing is reported but
what the set itself is reported for, which is nothing where a name stands for it. The set may also
be any other expression, whose members lie in an index set of unknown size.
-/
theorem set_field_at_member {limit : ℕ∞} {table : SymbolTable} (valid : table.WellFormed limit)
    {base member : Expr Node} {record : Element} {endpoints : List Var} {name : Name Node}
    {field : Field} {shape : TensorType Var}
    (sets : (base.infer table .read).value = .one (.set (.element record) endpoints))
    (found : record.field? name.text = some field) (tensor : field.type = .tensor shape)
    (small : shape.order ≤ 1) (typed : (member.infer table .read).value = .one (.element record))
    (silent : (member.infer table .read).log.errors = []) (wholeNode partNode ownNode : Node) :
    let whole := (Expr.field wholeNode base name).infer table .read
    let part := (Expr.read partNode (.field wholeNode base name) [.at member]).infer table .read
    let own := (Expr.field ownNode member name).infer table .read
    own.value = .tensor shape ∧ part.value = own.value ∧
      whole.log.errors = (base.infer table .read).log.errors ∧
      part.log.errors = (base.infer table .read).log.errors ∧
      (base.bare.ident?.isSome = true → (base.infer table .read).log.errors = []) ∧
      ∃ leading, leading.Over table (.element record) base.bare.ident? ∧
        whole.value = .tensor (shape.overSet leading) := by
  intro whole part own
  have regular : shape.Regular (Var.WellFormedSet table.elements limit) := by
    cases (infer_yields valid .read base).value.single sets with
    | set _ _ registered =>
        have fieldValid := valid.field registered found
        rw [tensor] at fieldValid
        exact Ty.wellFormed_tensor.mp fieldValid
  obtain ⟨wholeErrors, leading, overMembers, wholeValue⟩ :=
    infer_set_field sets found tensor small wholeNode
  have ownValue : own.value = .tensor shape :=
    (infer_own_field typed found ownNode).trans (by rw [tensor]; rfl)
  have vector : (shape.overSet leading).axes = [leading :: shape.axes.headD []] := rfl
  have visited : (member.visit table).check.value = .one (.element record) := typed
  obtain ⟨value, errors⟩ := vector_read vector visited (member_suits_index overMembers member.span)
    partNode.span
  have block := TensorType.block_overSet regular small leading
  have partValue : part.value = .tensor shape :=
    (infer_read_value wholeValue).trans (value.trans (by rw [block]))
  have partErrors : part.log.errors = (base.infer table .read).log.errors :=
    calc part.log.errors
      _ = whole.log.errors ++ ((shape.overSet leading).checkRead partNode.span
            [.at (member.visit table)]).log.errors :=
          infer_read_errors wholeValue
      _ = (base.infer table .read).log.errors := by
          rw [errors.trans silent, List.append_nil]
          exact wholeErrors
  exact ⟨ownValue, partValue.trans ownValue.symm, wholeErrors, partErrors,
    fun named => named_base_silent named sets, leading, overMembers, wholeValue⟩

theorem point_column_at_member :
    let node : Node := ⟨0, .origin⟩
    let blocks : TensorType Var := ⟨.float, [[.range 2, .range 3]], true⟩
    let point : Element := ⟨"Point", [⟨"x", .tensor blocks⟩]⟩
    let world : SymbolTable := { SymbolTable.empty with elements := [point] }
    let table := (world.bind "points" (some (.set (.element point) [])) .readWrite).bind "p"
      (some (.element point)) .read
    let base : Expr Node := .paren node (.ident ⟨node, "points"⟩)
    let member : Expr Node := .ident ⟨node, "p"⟩
    let whole := (Expr.field node base ⟨node, "x"⟩).infer table .read
    let part := (Expr.read node (.field node base ⟨node, "x"⟩) [.at member]).infer table .read
    let own := (Expr.field node member ⟨node, "x"⟩).infer table .read
    table.WellFormed ⊤ ∧
      (base.infer table .read).value = .one (.set (.element point) []) ∧
      point.field? "x" = some ⟨"x", .tensor blocks⟩ ∧ blocks.order ≤ 1 ∧
      (member.infer table .read).value = .one (.element point) ∧
      (member.infer table .read).log.errors = [] ∧
      own.value = .tensor blocks ∧ part.value = own.value ∧ whole.log.errors = [] ∧
      part.log.errors = [] := by
  intro node blocks point world table base member whole part own
  have regular : blocks.Regular (Var.WellFormedSet [] ⊤) :=
    TensorType.regular_of_axes .float _ true 2 (fun _ => rfl) (by decide) (by simp) (by simp)
  have registered : point.Registered [point] := rfl
  have valid : table.WellFormed ⊤ := by
    have worldValid : world.WellFormed ⊤ := by
      refine add_element_wellFormed empty_wellFormed point fun field member => ?_
      rw [List.mem_singleton.mp member]
      exact Ty.wellFormed_tensor.mpr regular
    refine (worldValid.bind "points" .readWrite ?_).bind "p" .read ?_
    · rintro _ ⟨⟩
      exact .set point [] registered (by simp) (by simp) (by simp)
    · rintro _ ⟨⟩
      exact .element point registered
  have sets : (base.infer table .read).value = .one (.set (.element point) []) := rfl
  have typed : (member.infer table .read).value = .one (.element point) := rfl
  have found : point.field? (Name.mk node "x").text = some ⟨"x", .tensor blocks⟩ := rfl
  obtain ⟨ownValue, partValue, wholeErrors, partErrors, silent, _⟩ :=
    set_field_at_member valid sets found rfl (by decide) typed rfl node node node
  have quiet := silent rfl
  exact ⟨valid, sets, found, by decide, typed, rfl, ownValue, partValue, wholeErrors.trans quiet,
    partErrors.trans quiet⟩

end TensorLang
