import TensorLang.Proofs.FadingOperators

set_option autoImplicit false

namespace TensorLang

variable {first second : SymbolTable}

theorem zip_paired {α β γ : Type} {related : α → β → Prop} {values : List α} {copies : List β}
    (paired : List.Forall₂ related values copies) (others : List γ) :
    List.Forall₂ (fun left right => related left.1 right.1 ∧ left.2 = right.2)
      (values.zip others) (copies.zip others) := by
  induction paired generalizing others with
  | nil => exact .nil
  | cons head _ ih =>
      cases others with
      | nil => exact .nil
      | cons other rest => exact .cons ⟨head, rfl⟩ (ih rest)

theorem argument_follows {operand copy : Operand} (faded : operand.Fades copy) :
    operand.argument.Follows Fades copy.argument := by
  rcases faded.cases with rfl | rfl
  · exact Logged.follows_silent (.none _)
  · exact Logged.follows_self (.refl _)

theorem pass_argument_follows {operand copy : Operand} (faded : operand.Fades copy)
    (parameter : Var) :
    (passArgument operand parameter).Follows (fun _ _ => True) (passArgument copy parameter) := by
  rcases faded.cases with rfl | rfl
  · exact Logged.follows_silent trivial
  · exact Logged.follows_self trivial

theorem check_arguments_follows (routine : Routine) (span : Span)
    {operands copies : List Operand} (faded : List.Forall₂ Operand.Fades operands copies) :
    (routine.checkArguments span operands).Follows (fun _ _ => True)
      (routine.checkArguments span copies) := by
  simp only [Routine.checkArguments]
  rw [faded.length_eq]
  split
  · refine Logged.follows_forM (zip_paired faded routine.parameters) fun item other same => ?_
    obtain ⟨operand, parameter⟩ := item
    obtain ⟨copy, copyParameter⟩ := other
    obtain ⟨operandFaded, rfl⟩ := same
    exact pass_argument_follows operandFaded parameter
  · exact Logged.follows_self trivial

theorem resolve_routine_follows (faded : first.Fades second) (name : Name Node) :
    (name.resolveRoutine first).Follows Eq (name.resolveRoutine second) := by
  rw [name.resolve_routine_promised, name.resolve_routine_promised, faded.routine]
  exact Logged.follows_self rfl

theorem call_follows (faded : first.Fades second) (span : Span) (name : Name Node)
    {arguments copies : List Visit} (visits : List.Forall₂ Visit.Follows arguments copies) :
    (checkCall first span name arguments).Follows Fades (checkCall second span name copies) := by
  refine Logged.follows_bind (Logged.follows_mapM visits fun _ _ => operand_follows)
    fun operands copyOperands paired => ?_
  refine Logged.follows_bind (resolve_routine_follows faded name) fun routine? copy? same => ?_
  subst same
  cases routine? with
  | none => exact Logged.follows_pure (.refl _)
  | some routine =>
      refine Logged.follows_bind (check_arguments_follows routine span paired) fun _ _ _ => ?_
      exact Logged.follows_pure (.refl _)

structure MapArgument.Fades (first second : MapArgument) : Prop where
  span : second.span = first.span
  type : TensorLang.Fades first.type? second.type?

theorem MapArgument.Fades.refl (argument : MapArgument) : argument.Fades argument :=
  ⟨rfl, .refl _⟩

theorem map_argument_follows {visit copy : Visit} (faded : visit.Follows copy) :
    visit.mapArgument.Follows MapArgument.Fades copy.mapArgument := by
  refine Logged.follows_bind (operand_follows faded) fun operand other known => ?_
  refine Logged.follows_bind (argument_follows known) fun type? copy? typeKnown => ?_
  exact Logged.follows_pure ⟨known.span, typeKnown⟩

theorem map_arguments_follows (parameterCount : Nat) (span : Span)
    {partials copies : List MapArgument} (faded : List.Forall₂ MapArgument.Fades partials copies)
    (member : Ty) (endpoints : List Var) :
    (mapArguments parameterCount span partials member endpoints).Follows
      (List.Forall₂ MapArgument.Fades)
      (mapArguments parameterCount span copies member endpoints) := by
  have arguments := List.rel_append faded (.cons (MapArgument.Fades.refl ⟨span, some member⟩) .nil)
  unfold mapArguments
  dsimp only
  cases endpoints with
  | nil => exact Logged.follows_pure arguments
  | cons endpoint rest =>
      dsimp only
      rw [arguments.length_eq]
      split
      · exact Logged.follows_pure arguments
      · apply Logged.follows_same _
        exact Logged.follows_pure (List.rel_append arguments (.cons (.refl _) .nil))

theorem pass_map_argument_follows (routine : Routine) {argument copy : MapArgument}
    (faded : argument.Fades copy) (parameter : Var) :
    (routine.passMapArgument argument parameter).Follows (fun _ _ => True)
      (routine.passMapArgument copy parameter) := by
  obtain ⟨span, type?⟩ := argument
  obtain ⟨copySpan, copyType?⟩ := copy
  obtain ⟨same, known⟩ := faded
  dsimp only at same known
  subst same
  rcases known with rfl | rfl
  · exact Logged.follows_silent trivial
  · exact Logged.follows_self trivial

theorem check_map_arguments_follows (routine : Routine) (span : Span)
    {arguments copies : List MapArgument}
    (faded : List.Forall₂ MapArgument.Fades arguments copies) :
    (routine.checkMapArguments span arguments).Follows (fun _ _ => True)
      (routine.checkMapArguments span copies) := by
  simp only [Routine.checkMapArguments]
  rw [faded.length_eq]
  split
  · refine Logged.follows_forM (zip_paired faded routine.parameters) fun item other same => ?_
    obtain ⟨argument, parameter⟩ := item
    obtain ⟨copy, copyParameter⟩ := other
    obtain ⟨argumentFaded, rfl⟩ := same
    exact pass_map_argument_follows routine argumentFaded parameter
  · exact Logged.follows_self trivial

theorem check_over_follows (routine : Routine) (span targetSpan : Span)
    {partials copies : List MapArgument} (faded : List.Forall₂ MapArgument.Fades partials copies)
    (target : Var) :
    (routine.checkOver span targetSpan partials target).Follows (fun _ _ => True)
      (routine.checkOver span targetSpan copies target) := by
  apply Logged.follows_same _
  cases (Logged.promised target.setType).value with
  | none => exact Logged.follows_pure trivial
  | some set =>
      refine Logged.follows_bind (map_arguments_follows _ _ faded _ _)
        fun arguments copyArguments paired => ?_
      exact check_map_arguments_follows routine span paired

theorem map_follows (faded : first.Fades second) (span : Span) (name : Name Node)
    {partials copies : List Visit} (visits : List.Forall₂ Visit.Follows partials copies)
    (target : Name Node) :
    (checkMap first span name partials target).Follows Fades
      (checkMap second span name copies target) := by
  refine Logged.follows_bind (Logged.follows_mapM visits fun _ _ => map_argument_follows)
    fun arguments copyArguments paired => ?_
  refine Logged.follows_bind (resolve_routine_follows faded name) fun routine? copy? same => ?_
  subst same
  refine Logged.follows_bind (resolve_set_follows faded _ target) fun target? copy? known => ?_
  cases routine? with
  | none => exact Logged.follows_pure (.refl _)
  | some routine =>
      rcases known with rfl | rfl
      · cases target? <;> exact Logged.follows_silent (.refl _)
      · cases copy? with
        | none => exact Logged.follows_pure (.refl _)
        | some set =>
            refine Logged.follows_bind (check_over_follows routine _ _ paired set) fun _ _ _ => ?_
            exact Logged.follows_pure (.refl _)

-- Two positions of a read: both slices, or both indices of which the second knows less.
inductive Position.Follows : Position → Position → Prop where
  | slice (span : Span) : Position.Follows (.slice span) (.slice span)
  | «at» (visit copy : Visit) (faded : visit.Follows copy) :
      Position.Follows (.at visit) (.at copy)

theorem check_index_follows (leading : IndexSet Var) {operand copy : Operand}
    (faded : operand.Fades copy) :
    (operand.checkIndex leading).Follows (fun _ _ => True) (copy.checkIndex leading) := by
  rcases faded.cases with rfl | rfl
  · exact Logged.follows_silent trivial
  · exact Logged.follows_self trivial

theorem read_axis_follows (axis : Axis Var) (leading : IndexSet Var) {position copy : Position}
    (faded : position.Follows copy) :
    (position.readAxis axis leading).Follows Eq (copy.readAxis axis leading) := by
  cases faded with
  | slice span => exact Logged.follows_pure rfl
  | «at» visit copy known =>
      refine Logged.follows_bind (operand_follows known) fun operand other operandFaded => ?_
      refine Logged.follows_bind (check_index_follows leading operandFaded) fun _ _ _ => ?_
      exact Logged.follows_pure rfl

theorem last_is_index {positions copies : List Position}
    (faded : List.Forall₂ Position.Follows positions copies) :
    positions.getLast?.any Position.isIndex = copies.getLast?.any Position.isIndex := by
  induction faded with
  | nil => rfl
  | cons head rest ih =>
      cases rest with
      | nil => cases head <;> rfl
      | cons next others => simpa [List.getLast?_cons_cons] using ih

theorem tensor_read_follows (tensor : TensorType Var) (span : Span)
    {positions copies : List Position}
    (faded : List.Forall₂ Position.Follows positions copies) :
    (tensor.checkRead span positions).Follows Fades (tensor.checkRead span copies) := by
  have each (item other : Position × Axis Var × IndexSet Var)
      (same : item.1.Follows other.1 ∧ item.2 = other.2) :
      (item.1.readAxis item.2.1 item.2.2).Follows Eq (other.1.readAxis other.2.1 other.2.2) := by
    rw [← same.2]
    exact read_axis_follows item.2.1 item.2.2 same.1
  simp only [TensorType.checkRead]
  rw [faded.length_eq, last_is_index faded]
  split
  · refine Logged.follows_bind (Logged.follows_mapM (zip_paired faded _) each)
      fun kept copyKept paired => ?_
    rw [List.forall₂_eq_eq_eq] at paired
    subst paired
    exact Logged.follows_pure (.refl _)
  · exact Logged.follows_fail

theorem tuple_read_follows (span : Span) {positions copies : List Position}
    (faded : List.Forall₂ Position.Follows positions copies) :
    (checkTupleRead span positions).Follows (fun _ _ => True) (checkTupleRead span copies) := by
  match faded with
  | .nil => exact Logged.follows_self trivial
  | .cons (.slice span) .nil => exact Logged.follows_self trivial
  | .cons (.at visit copy known) .nil =>
      refine Logged.follows_bind (operand_follows known) fun operand other operandFaded => ?_
      exact expect_follows _ _ operandFaded
  | .cons (.slice _) (.cons _ _) => exact fun clean => nomatch clean
  | .cons (.at _ _ _) (.cons _ _) => exact fun clean => nomatch clean

theorem read_follows (span : Span) {base copy : Operand} (faded : base.Fades copy)
    {positions copies : List Position}
    (paired : List.Forall₂ Position.Follows positions copies) :
    (checkRead span base positions).Follows Fades (checkRead span copy copies) := by
  rcases faded.cases with rfl | rfl
  · exact Logged.follows_silent (.none _)
  obtain ⟨baseSpan, types?⟩ := copy
  match types? with
  | none => exact Logged.follows_pure (.refl _)
  | some [.tensor shape] => exact tensor_read_follows shape span paired
  | some [.tuple member length] =>
      refine Logged.follows_bind (tuple_read_follows span paired) fun _ _ _ => ?_
      exact Logged.follows_pure (.refl _)
  | some [.set ..] | some [.element _] | some [] => exact Logged.follows_fail
  | some (first :: next :: rest) => cases first <;> exact Logged.follows_fail

theorem leading_set_follows (faded : first.Fades second) {set? : Option (Name Node)}
    {base : Operand} (names : Operand.Names second set? base) {type : Ty}
    (typed : base.types? = some [type]) :
    (leadingSet first set?).Follows Eq (leadingSet second set?) := by
  cases set? with
  | none => exact Logged.follows_pure rfl
  | some name =>
      obtain ⟨symbol, copied, known⟩ := names name type rfl typed
      simp only [leadingSet, SymbolTable.symbol_promised copied,
        SymbolTable.symbol_promised (faded.symbol_typed copied known)]
      exact Logged.follows_self rfl

theorem field_of_members_follows (faded : first.Fades second) (span : Span)
    {set? : Option (Name Node)} {base : Operand} (names : Operand.Names second set? base)
    {type : Ty} (typed : base.types? = some [type]) (field : Field) :
    (field.ofMembers first span set?).Follows Fades (field.ofMembers second span set?) := by
  simp only [Field.ofMembers]
  split
  · refine Logged.follows_bind (leading_set_follows faded names typed) fun leading copy same => ?_
    rw [same]
    exact Logged.follows_pure (.refl _)
  · exact Logged.follows_fail

theorem field_follows (faded : first.Fades second) (span : Span) {base copy : Operand}
    (baseFaded : base.Fades copy) {set? : Option (Name Node)}
    (names : Operand.Names second set? copy) (name : Name Node) :
    (checkField first span base set? name).Follows Fades
      (checkField second span copy set? name) := by
  rcases baseFaded.cases with rfl | rfl
  · exact Logged.follows_silent (.none _)
  obtain ⟨baseSpan, types?⟩ := copy
  match types? with
  | none => exact Logged.follows_pure (.refl _)
  | some [.element record] => exact Logged.follows_self (.refl _)
  | some [.set member endpoints] =>
      apply Logged.follows_same _
      cases (Logged.promised member.toElement).value with
      | none => exact Logged.follows_pure (.refl _)
      | some record =>
          apply Logged.follows_same _
          cases (record.checkField name).value with
          | none => exact Logged.follows_pure (.refl _)
          | some field => exact field_of_members_follows faded span names rfl field
  | some [.tensor _] | some [.tuple ..] | some [] => exact Logged.follows_fail
  | some (first :: next :: rest) => cases first <;> exact Logged.follows_fail

end TensorLang
