import TensorLang.Proofs.FadingReads
import TensorLang.Proofs.SoundStmts

set_option autoImplicit false

namespace TensorLang

variable {first second : SymbolTable}

theorem recorded_follows (node : Node) {check copy : Logged Outcome}
    (known : check.Follows Fades copy) :
    (recorded node check).Follows Fades (recorded node copy) := by
  refine Logged.follows_bind known fun outcome copyOutcome faded => ?_
  rcases faded with rfl | rfl
  · intro _
    exact ⟨.none _, rfl, List.nil_sublist _, List.nil_sublist _⟩
  · exact Logged.follows_self (.refl _)

theorem name_infer_follows (faded : first.Fades second) (mode : Mode) (name : Name Node) :
    (name.infer first mode).Follows Fades (name.infer second mode) := by
  rw [name.infer_promised, name.infer_promised]
  rcases rel_cases (faded.symbol name.text) with ⟨bound, copied⟩ | ⟨_, _, bound, copied, known⟩
  · rw [bound, copied]
    exact Logged.follows_self (.refl _)
  · rw [bound, copied]
    dsimp only
    rw [known.access]
    apply Logged.follows_same _
    exact Logged.follows_pure (known.type.map _)

mutual
theorem infer_follows (faded : first.Fades second) (mode : Mode) (expression : Expr Node) :
    (expression.infer first mode).Follows Fades (expression.infer second mode) := by
  cases expression with
  | binary node operator left right =>
      rw [Expr.infer, Expr.infer]
      apply recorded_follows node
      refine Logged.follows_bind (infer_follows faded .read left) fun _ _ leftKnown => ?_
      refine Logged.follows_bind (infer_follows faded .read right) fun _ _ rightKnown => ?_
      exact binary_follows operator node.span (.mk_same leftKnown) (.mk_same rightKnown)
  | compare node operands operators =>
      rw [Expr.infer, Expr.infer]
      exact recorded_follows node (comparison_follows (visits_follow faded operands))
  | unary node operator operand =>
      rw [Expr.infer, Expr.infer]
      apply recorded_follows node
      refine Logged.follows_bind (infer_follows faded .read operand) fun _ _ known => ?_
      exact unary_follows operator (.mk_same known)
  | transpose node operand =>
      rw [Expr.infer, Expr.infer]
      apply recorded_follows node
      refine Logged.follows_bind (infer_follows faded .read operand) fun _ _ known => ?_
      exact transpose_follows (.mk_same known)
  | call node routine arguments =>
      rw [Expr.infer, Expr.infer]
      exact recorded_follows node
        (call_follows faded node.span routine (visits_follow faded arguments))
  | map node routine partials target =>
      rw [Expr.infer, Expr.infer]
      exact recorded_follows node
        (map_follows faded node.span routine (visits_follow faded partials) target)
  | read node base indices =>
      rw [Expr.infer, Expr.infer]
      apply recorded_follows node
      refine Logged.follows_bind (infer_follows faded mode.ofBase base) fun _ _ known => ?_
      exact read_follows node.span (.mk_same known) (positions_follow faded indices)
  | field node base name =>
      rw [Expr.infer, Expr.infer]
      apply recorded_follows node
      refine Logged.follows_bind_value (infer_follows faded mode.ofBase base) fun known => ?_
      have names := infer_names second mode.ofBase base
      exact field_follows faded node.span (.mk_same known) names name
  | paren node inner =>
      rw [Expr.infer, Expr.infer]
      exact recorded_follows node (infer_follows faded mode inner)
  | int node value => exact recorded_follows node (Logged.follows_self (.refl _))
  | float node value => exact recorded_follows node (Logged.follows_self (.refl _))
  | bool node value => exact recorded_follows node (Logged.follows_self (.refl _))
  | dense literal => exact recorded_follows literal.node (Logged.follows_self (.refl _))
  | ident name => exact recorded_follows name.node (name_infer_follows faded mode name)
theorem visits_follow (faded : first.Fades second) (operands : List (Expr Node)) :
    List.Forall₂ Visit.Follows (visits first operands) (visits second operands) := by
  cases operands with
  | nil => exact .nil
  | cons operand rest =>
      exact .cons ⟨rfl, infer_follows faded .read operand⟩ (visits_follow faded rest)
theorem positions_follow (faded : first.Fades second) (indices : List (Index Node)) :
    List.Forall₂ Position.Follows (positions first indices) (positions second indices) := by
  cases indices with
  | nil => exact .nil
  | cons index rest =>
      cases index with
      | slice node => exact .cons (.slice node.span) (positions_follow faded rest)
      | «at» index =>
          exact .cons (.at _ _ ⟨rfl, infer_follows faded .read index⟩)
            (positions_follow faded rest)
end

theorem infer_value_follows (faded : first.Fades second) (value? : Option (Expr Node)) :
    (Expr.inferValue first value?).Follows Fades (Expr.inferValue second value?) := by
  cases value? with
  | none => exact Logged.follows_self (.refl _)
  | some value => exact infer_follows faded .read value

theorem check_value_follows (constancy : Constancy) (span : Span) {declared? copy? : Option Ty}
    (declared : Fades declared? copy?) {found? foundCopy? : Outcome}
    (found : Fades found? foundCopy?) :
    (constancy.checkValue span declared? found?).Follows (fun _ _ => True)
      (constancy.checkValue span copy? foundCopy?) := by
  rcases declared with rfl | rfl
  · exact Logged.follows_silent trivial
  rcases found with rfl | rfl
  · cases copy? <;> exact Logged.follows_silent trivial
  · exact Logged.follows_self trivial

theorem binds_typed_fades (faded : first.Fades second) (name : String)
    (free : ¬(first.local? name).any (·.var.type?.isSome) = true) :
    ¬(second.local? name).any (·.var.type?.isSome) = true := by
  have here : Option.Rel Symbol.Fades (first.local? name) (second.local? name) :=
    faded.current.symbols name
  rcases rel_cases here with ⟨_, copied⟩ | ⟨found, copy, bound, copied, known⟩
  · simp [copied]
  · rw [bound] at free
    rw [copied]
    rcases known.type with absent | same
    · simp [absent]
    · simpa [same] using free

theorem declaration_follows (faded : first.Fades second) (constancy : Constancy)
    (declaration : Declaration Node) :
    (declaration.check first constancy).Follows SymbolTable.Fades
      (declaration.check second constancy) := by
  have written := annotation_follows faded declaration.type
  refine Logged.follows_bind written fun declared? copy? declared => ?_
  have inferred := infer_value_follows faded declaration.value
  refine Logged.follows_bind inferred fun found? foundCopy? found => ?_
  dsimp only
  rw [first.binds_typed_promised, second.binds_typed_promised, pure_bind, pure_bind]
  by_cases free : (first.local? declaration.name.text).any (·.var.type?.isSome) = true
  · rw [if_pos free]
    exact Logged.follows_report
  · rw [if_neg free, if_neg (binds_typed_fades faded _ free)]
    refine Logged.follows_bind (check_value_follows constancy _ declared found) fun _ _ _ => ?_
    exact Logged.follows_pure (faded.bind _ declared _)

structure Target.Fades (first second : Target) : Prop where
  span : second.span = first.span
  type : TensorLang.Fades first.type? second.type?

theorem check_target_follows (faded : first.Fades second) (target : Expr Node) :
    (target.checkTarget first).Follows Target.Fades (target.checkTarget second) := by
  have inferred := infer_follows faded target.targetMode target
  refine Logged.follows_bind inferred fun outcome copy known => ?_
  exact Logged.follows_pure ⟨rfl, known.bind singleType?⟩

theorem target_error_fades {target copy : Target} (faded : target.Fades copy) (value : Ty)
    (fits : target.error? value = none) : copy.error? value = none := by
  obtain ⟨span, type?⟩ := target
  obtain ⟨copySpan, copyType?⟩ := copy
  obtain ⟨same, known⟩ := faded
  dsimp only at same known
  subst same
  rcases known with rfl | rfl
  · rfl
  · exact fits

theorem assignment_errors_fade (span : Span) {targets copies : List Target}
    (faded : List.Forall₂ Target.Fades targets copies) (values : List Ty)
    (clean : assignmentErrors span targets values = []) :
    values.length = targets.length ∧ assignmentErrors span copies values = [] := by
  simp only [assignmentErrors] at clean ⊢
  rw [← faded.length_eq]
  by_cases counts : values.length = targets.length
  · rw [if_pos counts] at clean
    refine ⟨counts, ?_⟩
    rw [if_pos counts]
    clear counts
    induction faded generalizing values with
    | nil => rfl
    | @cons target _ _ _ head _ ih =>
        cases values with
        | nil => rfl
        | cons value rest =>
            rw [List.zip_cons_cons, List.filterMap_cons] at clean ⊢
            dsimp only at clean ⊢
            cases fits : target.error? value with
            | none =>
                rw [fits] at clean
                rw [target_error_fades head value fits]
                exact ih rest clean
            | some error =>
                rw [fits] at clean
                cases clean
  · rw [if_neg counts] at clean
    cases clean

theorem absent_fades (targets : List (Expr Node)) (types : List (Option Ty))
    (counts : types.length = targets.length) :
    List.Forall₂ Fades types (targets.map fun _ => none) := by
  induction targets generalizing types with
  | nil =>
      rw [List.eq_nil_of_length_eq_zero counts]
      exact .nil
  | cons target rest ih =>
      cases types with
      | nil => exact (nomatch counts)
      | cons type? others => exact .cons (.none type?) (ih others (Nat.succ.inj counts))

theorem target_types_fade (targets : List (Expr Node)) {values? copy? : Outcome}
    (known : Fades values? copy?)
    (counts : ∀ values, values? = some values → values.length = targets.length) :
    List.Forall₂ Fades (targetTypes targets values? []) (targetTypes targets copy? []) := by
  rcases known with rfl | rfl
  · cases values? with
    | none => exact List.forall₂_same.mpr fun _ _ => .refl _
    | some values =>
        have lengths : (values.map some).length = targets.length := by
          simpa using counts values rfl
        exact absent_fades targets (values.map some) lengths
  · exact List.forall₂_same.mpr fun _ _ => .refl _

theorem declare_target_fades (faded : first.Fades second) (target : Expr Node)
    {type? copy? : Option Ty} (known : Fades type? copy?) :
    (first.declareTarget target type?).Fades (second.declareTarget target copy?) := by
  simp only [SymbolTable.declareTarget]
  cases target.ident? with
  | none => exact faded
  | some name =>
      dsimp only
      rcases rel_cases (faded.symbol name.text) with ⟨bound, copied⟩ | ⟨_, _, bound, copied, _⟩
      · rw [bound, copied]
        exact faded.bind name.text known .readWrite
      · rw [bound, copied]
        exact faded

theorem declare_targets_fade (faded : first.Fades second)
    {targets copies : List (Expr Node × Option Ty)}
    (paired : List.Forall₂ (fun target copy => copy.1 = target.1 ∧ Fades target.2 copy.2)
      targets copies) :
    (first.declareTargets targets).Fades (second.declareTargets copies) := by
  simp only [SymbolTable.declareTargets]
  induction paired generalizing first second with
  | nil => exact faded
  | @cons target copy _ _ head _ ih =>
      rw [List.foldl_cons, List.foldl_cons]
      apply ih
      obtain ⟨expression, type?⟩ := target
      obtain ⟨copyExpression, copy?⟩ := copy
      obtain ⟨same, known⟩ := head
      dsimp only at same known
      rw [same]
      exact declare_target_fades faded expression known

theorem zip_with_same {α β γ : Type} {related : α → β → Prop} {values : List α}
    {copies : List β} (paired : List.Forall₂ related values copies) (others : List γ) :
    List.Forall₂ (fun left right => right.1 = left.1 ∧ related left.2 right.2)
      (others.zip values) (others.zip copies) := by
  induction paired generalizing others with
  | nil =>
      rw [List.zip_nil_right, List.zip_nil_right]
      exact .nil
  | cons head _ ih =>
      cases others with
      | nil => exact .nil
      | cons other rest => exact .cons ⟨rfl, head⟩ (ih rest)

-- No more faults than before means none at all, so that new targets get the types that are left.
theorem check_targets_follows (faded : first.Fades second) (span : Span)
    (targets : List (Expr Node)) (value : Expr Node) :
    (checkTargets first span targets value).Follows
      (List.Forall₂ fun target copy => copy.1 = target.1 ∧ Fades target.2 copy.2)
      (checkTargets second span targets value) := by
  have each (target other : Expr Node) (same : target = other) :
      (target.checkTarget first).Follows Target.Fades (other.checkTarget second) :=
    same ▸ check_target_follows faded target
  refine Logged.follows_bind (infer_follows faded .read value) fun values? copy? known => ?_
  refine Logged.follows_bind_value
    (Logged.follows_mapM (List.forall₂_same.mpr fun _ _ => rfl) each) fun paired => ?_
  have counted : (targets.mapM (Expr.checkTarget first)).value.length = targets.length := by simp
  generalize (targets.mapM (Expr.checkTarget first)).value = checked at counted paired ⊢
  generalize (targets.mapM (Expr.checkTarget second)).value = copies at paired ⊢
  dsimp only
  intro clean
  have none : values?.elim [] (assignmentErrors span checked) = [] := by simpa using clean
  have copyNone : copy?.elim [] (assignmentErrors span copies) = [] := by
    rcases known with rfl | rfl
    · rfl
    · cases copy? with
      | none => rfl
      | some values => exact (assignment_errors_fade span paired values none).2
  have types := target_types_fade targets known fun values same => by
    rw [same] at none
    rw [← counted]
    exact (assignment_errors_fade span paired values none).1
  rw [none, copyNone]
  exact ⟨zip_with_same types targets, rfl, List.Sublist.refl _, List.Sublist.refl _⟩

theorem assignment_follows (faded : first.Fades second) (span : Span)
    (targets : List (Expr Node)) (value : Expr Node) :
    (checkAssignment first span targets value).Follows SymbolTable.Fades
      (checkAssignment second span targets value) := by
  have assigned := check_targets_follows faded span targets value
  refine Logged.follows_bind assigned fun checked copies paired => ?_
  exact Logged.follows_pure (declare_targets_fade faded paired)

theorem check_bounds_follows (faded : first.Fades second) (lower upper : Expr Node) :
    (checkBounds first lower upper).Follows (fun _ _ => True) (checkBounds second lower upper) := by
  refine Logged.follows_bind (infer_follows faded .read lower) fun _ _ lowerKnown => ?_
  refine Logged.follows_bind (infer_follows faded .read upper) fun _ _ upperKnown => ?_
  refine Logged.follows_bind (expect_follows _ _ (.mk_same lowerKnown)) fun _ _ _ => ?_
  exact expect_follows _ _ (.mk_same upperKnown)

theorem print_follows (faded : first.Fades second) (value : Expr Node) :
    (checkPrint first value).Follows (fun _ _ => True) (checkPrint second value) := by
  refine Logged.follows_bind (infer_follows faded .read value) fun _ _ known => ?_
  exact expect_follows _ _ (.mk_same known)

theorem counter_fades (faded : first.Fades second) (counter : Name Node) :
    (first.push.bindCounter counter).Fades (second.push.bindCounter counter) :=
  faded.push.bind counter.text (.refl _) .read

-- The condition is judged after its block, which changes nothing about it.
theorem conditional_follows {block copy : Logged SymbolTable} {span : Span}
    {types? copy? : Outcome} (inner : block.Follows SymbolTable.Fades copy)
    (known : Fades types? copy?) :
    (do
      let table ← block
      Operand.expectCondition ⟨span, types?⟩
      return table.pop : Logged SymbolTable).Follows SymbolTable.Fades (do
        let table ← copy
        Operand.expectCondition ⟨span, copy?⟩
        return table.pop) := by
  refine Logged.follows_bind inner fun table copyTable faded => ?_
  refine Logged.follows_bind (expect_follows _ _ (.mk_same known)) fun _ _ _ => ?_
  exact Logged.follows_pure faded.pop

mutual
theorem stmt_follows {first second : SymbolTable} (faded : first.Fades second)
    (statement : Stmt Node) :
    (statement.check first).Follows SymbolTable.Fades (statement.check second) := by
  cases statement with
  | «variable» declaration => exact declaration_follows faded .variable declaration
  | constant declaration => exact declaration_follows faded .constant declaration
  | loop node condition body =>
      rw [Stmt.check, Stmt.check]
      refine Logged.follows_bind (infer_follows faded .read condition) fun _ _ known => ?_
      exact conditional_follows (block_follows faded.push body) known
  | branch node condition thenBlock elseBlock =>
      cases elseBlock with
      | none =>
          rw [Stmt.check, Stmt.check]
          refine Logged.follows_bind (infer_follows faded .read condition) fun _ _ known => ?_
          exact conditional_follows (block_follows faded.push thenBlock) known
      | some elseBlock =>
          rw [Stmt.check, Stmt.check]
          refine Logged.follows_bind (infer_follows faded .read condition) fun _ _ known => ?_
          have inside := block_follows faded.push thenBlock
          refine Logged.follows_bind inside fun _ _ taken => ?_
          exact conditional_follows (block_follows taken.pop.push elseBlock) known
  | forRange node counter domain lower upper body =>
      rw [Stmt.check, Stmt.check]
      refine Logged.follows_bind (check_bounds_follows faded.push lower upper) fun _ _ _ => ?_
      have inside := block_follows (counter_fades faded counter) body
      refine Logged.follows_bind inside fun _ _ inner => ?_
      exact Logged.follows_pure inner.pop
  | forSet node counter domain set body =>
      rw [Stmt.check, Stmt.check]
      refine Logged.follows_bind (resolve_set_follows faded.push _ set) fun _ _ _ => ?_
      have inside := block_follows (counter_fades faded counter) body
      refine Logged.follows_bind inside fun _ _ inner => ?_
      exact Logged.follows_pure inner.pop
  | print node value =>
      rw [Stmt.check, Stmt.check]
      refine Logged.follows_bind (print_follows faded value) fun _ _ _ => ?_
      exact Logged.follows_pure faded
  | assign node targets value =>
      rw [Stmt.check, Stmt.check]
      exact assignment_follows faded node.span targets value
  | eval node value =>
      rw [Stmt.check, Stmt.check]
      refine Logged.follows_bind (infer_follows faded .read value) fun _ _ _ => ?_
      exact Logged.follows_pure faded
theorem block_follows {first second : SymbolTable} (faded : first.Fades second)
    (block : Block Node) :
    (block.check first).Follows SymbolTable.Fades (block.check second) := by
  obtain ⟨node, statements⟩ := block
  rw [Block.check, Block.check]
  exact stmts_follow faded statements
theorem stmts_follow {first second : SymbolTable} (faded : first.Fades second)
    (statements : List (Stmt Node)) :
    (checkStmts first statements).Follows SymbolTable.Fades (checkStmts second statements) := by
  cases statements with
  | nil =>
      rw [checkStmts, checkStmts]
      exact Logged.follows_pure faded
  | cons statement rest =>
      rw [checkStmts, checkStmts]
      refine Logged.follows_bind (stmt_follows faded statement) fun _ _ next => ?_
      exact stmts_follow next rest
end

end TensorLang
