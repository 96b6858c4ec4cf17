import TensorLang.Proofs.Fading
import TensorLang.Proofs.Promises
import TensorLang.Proofs.SoundReads

set_option autoImplicit false

namespace TensorLang

variable {first second : SymbolTable}

theorem all_present_fades {α : Type} {values copies : List (Option α)}
    (faded : List.Forall₂ Fades values copies) :
    Fades (allPresent values) (allPresent copies) := by
  simp only [allPresent]
  induction faded with
  | nil => exact .refl _
  | @cons value? copy? _ _ head _ ih =>
      rw [List.mapM_cons, List.mapM_cons]
      rcases head with absent | same
      · rw [absent]
        exact .none _
      · rw [same]
        cases value? with
        | none => exact .refl _
        | some value =>
            have rest := ih.map (value :: ·)
            simpa [Option.map_eq_bind] using rest

theorem resolve_element_follows (faded : first.Fades second) (name : Name Node) :
    (name.resolveElement first).Follows Fades (name.resolveElement second) := by
  rw [name.resolve_element_promised, name.resolve_element_promised, faded.element]
  exact Logged.follows_self (.refl _)

theorem resolve_set_follows (faded : first.Fades second) (wrong : Ty → Mismatch)
    (name : Name Node) :
    (name.resolveSet first wrong).Follows Fades (name.resolveSet second wrong) := by
  rw [name.resolve_set_promised, name.resolve_set_promised]
  rcases rel_cases (faded.symbol name.text) with ⟨bound, copied⟩ | ⟨_, copy, bound, copied, known⟩
  · rw [bound]
    exact Logged.follows_fail
  rw [bound, copied]
  dsimp only
  cases typed : copy.var.type? with
  | none => exact Logged.follows_silent (.none _)
  | some type =>
      cases known.typed typed
      rw [typed]
      cases type with
      | set member endpoints => exact Logged.follows_self (.refl _)
      | tensor shape => exact Logged.follows_fail
      | tuple member length => exact Logged.follows_fail
      | element record => exact Logged.follows_fail

theorem domain_follows (faded : first.Fades second) (domain : Domain Node) :
    (domain.resolve first).Follows Fades (domain.resolve second) := by
  cases domain with
  | range node size => exact Logged.follows_self (.refl _)
  | dynamic node => exact Logged.follows_self (.refl _)
  | set name =>
      refine Logged.follows_bind (resolve_set_follows faded _ name) fun value copy known => ?_
      exact Logged.follows_pure (known.map _)

theorem annotation_follows (faded : first.Fades second) (written : TypeExpr Node) :
    (written.resolve first).Follows Fades (written.resolve second) := by
  induction written with
  | scalar node component => exact Logged.follows_self (.refl _)
  | element name => exact resolve_element_follows faded name
  | set node member endpoints =>
      have resolved := resolve_element_follows faded member
      refine Logged.follows_bind resolved fun member? copy? known => ?_
      have each (name other : Name Node) (same : name = other) :
          (name.resolveEndpoint first).Follows Fades (other.resolveEndpoint second) :=
        same ▸ resolve_set_follows faded .endpoint name
      refine Logged.follows_bind (Logged.follows_mapM (List.forall₂_same.mpr fun _ _ => rfl) each)
        fun vars copies ends => ?_
      rcases known with rfl | rfl
      · exact Logged.follows_silent (.none _)
      rcases all_present_fades ends with absent | same
      · rw [absent]
        cases copy? <;> exact Logged.follows_silent (.none _)
      · rw [same]
        exact Logged.follows_self (.refl _)
  | tuple node member lengthNode length =>
      have resolved := resolve_element_follows faded member
      refine Logged.follows_bind resolved fun member? copy? known => ?_
      cases tupleLength? length with
      | none => exact Logged.follows_fail
      | some length => exact Logged.follows_pure (known.map _)
  | tensor node domains inner column ih =>
      refine Logged.follows_bind ih fun block? copy? known => ?_
      have each (domain other : Domain Node) (same : domain = other) :
          (domain.resolve first).Follows Fades (other.resolve second) :=
        same ▸ domain_follows faded domain
      refine Logged.follows_bind (Logged.follows_mapM (List.forall₂_same.mpr fun _ _ => rfl) each)
        fun indices copies leading => ?_
      rcases known with rfl | rfl
      · exact Logged.follows_silent (.none _)
      rcases all_present_fades leading with absent | same
      · rw [absent]
        cases copy? <;> exact Logged.follows_silent (.none _)
      · rw [same]
        exact Logged.follows_self (.refl _)

structure Operand.Fades (first second : Operand) : Prop where
  span : second.span = first.span
  types : TensorLang.Fades first.types? second.types?

-- Two operands that are yet to be checked, the second of them against the table that knows less.
structure Visit.Follows (first second : Visit) : Prop where
  span : second.span = first.span
  check : first.check.Follows Fades second.check

theorem Operand.Fades.mk_same {span : Span} {types? copy? : Outcome}
    (known : TensorLang.Fades types? copy?) :
    Operand.Fades ⟨span, types?⟩ ⟨span, copy?⟩ := ⟨rfl, known⟩

theorem Operand.Fades.cases {operand copy : Operand} (faded : operand.Fades copy) :
    copy = ⟨operand.span, none⟩ ∨ copy = operand := by
  obtain ⟨span, types?⟩ := operand
  obtain ⟨copySpan, copyTypes?⟩ := copy
  obtain ⟨same, known⟩ := faded
  dsimp only at same known
  rw [same]
  rcases known with rfl | rfl
  · exact Or.inl rfl
  · exact Or.inr rfl

theorem expect_follows (accepts : List Ty → Bool) (cause : List Ty → Mismatch)
    {operand copy : Operand} (faded : operand.Fades copy) :
    (operand.expect accepts cause).Follows (fun _ _ => True) (copy.expect accepts cause) := by
  rcases faded.cases with rfl | rfl
  · exact Logged.follows_silent trivial
  · exact Logged.follows_self trivial

theorem numeric_follows (side : Side) (arithmetic : Arithmetic) {operand copy : Operand}
    (faded : operand.Fades copy) :
    (operand.numeric side arithmetic).Follows Fades (copy.numeric side arithmetic) := by
  refine Logged.follows_bind (expect_follows _ _ faded) fun _ _ _ => ?_
  exact Logged.follows_pure (faded.types.bind numericTensor?)

theorem arithmetic_follows (arithmetic : Arithmetic) (span : Span)
    {left leftCopy right rightCopy : Operand} (leftFaded : left.Fades leftCopy)
    (rightFaded : right.Fades rightCopy) :
    (arithmetic.check span left right).Follows Fades
      (arithmetic.check span leftCopy rightCopy) := by
  have leftNumeric := numeric_follows .left arithmetic leftFaded
  refine Logged.follows_bind leftNumeric fun left? leftCopy? leftKnown => ?_
  have rightNumeric := numeric_follows .right arithmetic rightFaded
  refine Logged.follows_bind rightNumeric fun right? rightCopy? rightKnown => ?_
  rcases leftKnown with rfl | rfl
  · exact Logged.follows_silent (.none _)
  rcases rightKnown with rfl | rfl
  · cases leftCopy? <;> exact Logged.follows_silent (.none _)
  · exact Logged.follows_self (.refl _)

theorem logic_follows {left leftCopy right rightCopy : Operand}
    (leftFaded : left.Fades leftCopy) (rightFaded : right.Fades rightCopy) :
    (checkLogic left right).Follows Fades (checkLogic leftCopy rightCopy) := by
  refine Logged.follows_bind (expect_follows _ _ leftFaded) fun _ _ _ => ?_
  refine Logged.follows_bind (expect_follows _ _ rightFaded) fun _ _ _ => ?_
  exact Logged.follows_pure (.refl _)

theorem binary_follows (operator : BinaryOp) (span : Span)
    {left leftCopy right rightCopy : Operand} (leftFaded : left.Fades leftCopy)
    (rightFaded : right.Fades rightCopy) :
    (operator.check span left right).Follows Fades
      (operator.check span leftCopy rightCopy) := by
  cases operator with
  | or | and | xor => exact logic_follows leftFaded rightFaded
  | add | sub | elementMul | elementDiv =>
      exact arithmetic_follows .elementwise span leftFaded rightFaded
  | mul => exact arithmetic_follows .product span leftFaded rightFaded
  | div => exact arithmetic_follows .quotient span leftFaded rightFaded
  | power => exact Logged.follows_fail

theorem unary_follows (operator : UnaryOp) {operand copy : Operand}
    (faded : operand.Fades copy) :
    (operator.check operand).Follows Fades (operator.check copy) := by
  cases operator with
  | not =>
      refine Logged.follows_bind (expect_follows _ _ faded) fun _ _ _ => ?_
      exact Logged.follows_pure (.refl _)
  | neg =>
      refine Logged.follows_bind (expect_follows _ _ faded) fun _ _ _ => ?_
      rcases faded.cases with rfl | rfl
      · exact Logged.follows_pure (.none _)
      · exact Logged.follows_pure (.refl _)

theorem transpose_follows {operand copy : Operand} (faded : operand.Fades copy) :
    (checkTranspose operand).Follows Fades (checkTranspose copy) := by
  rcases faded.cases with rfl | rfl
  · exact Logged.follows_silent (.none _)
  · exact Logged.follows_self (.refl _)

theorem operand_follows {visit copy : Visit} (faded : visit.Follows copy) :
    visit.operand.Follows Operand.Fades copy.operand := by
  refine Logged.follows_bind faded.check fun types? copy? known => ?_
  exact Logged.follows_pure ⟨faded.span, known⟩

theorem single_scalar {types : List Ty} (single : isSingle Ty.isScalar types = true) :
    ∃ component column, types = [.tensor ⟨component, [], column⟩] := by
  match types with
  | [.tensor ⟨component, [], column⟩] => exact ⟨component, column, rfl⟩
  | [.tensor ⟨component, axis :: rest, column⟩] => exact (nomatch single)
  | [] | [.set ..] | [.tuple ..] | [.element _] | _ :: _ :: _ => exact (nomatch single)

theorem scalars_equal {types others : List Ty} (single : isSingle Ty.isScalar types = true)
    (other : isSingle Ty.isScalar others = true) (equal : (types == others) = true) :
    types = others := by
  obtain ⟨component, column, rfl⟩ := single_scalar single
  obtain ⟨otherComponent, otherColumn, rfl⟩ := single_scalar other
  change ((component == otherComponent && true && (column == otherColumn)) && true) = true at equal
  simp only [Bool.and_true, Bool.and_eq_true, beq_iff_eq] at equal
  rw [equal.1, equal.2]

-- The representative of a comparison: a scalar, and the same one if it is still known.
structure RepresentativeFades (first? copy? : Outcome) : Prop where
  known : Fades first? copy?
  scalar : ∀ types, first? = some types → isSingle Ty.isScalar types = true

theorem compare_first (span : Span) {types : List Ty}
    (scalar : isSingle Ty.isScalar types = true) :
    Operand.compareWith none ⟨span, some types⟩ = pure (some types) := by
  unfold Operand.compareWith
  dsimp only
  rw [if_pos scalar]

theorem compare_next (span : Span) (first : List Ty) {types : List Ty}
    (scalar : isSingle Ty.isScalar types = true) :
    Operand.compareWith (some first) ⟨span, some types⟩ = (do
      Logged.require (first == types) span (.mismatch (.compared types first))
      return some first) := by
  unfold Operand.compareWith
  dsimp only
  rw [if_pos scalar]

theorem compare_with_follows {first? copy? : Outcome} (known : RepresentativeFades first? copy?)
    {operand copy : Operand} (faded : operand.Fades copy) :
    (operand.compareWith first?).Follows RepresentativeFades (copy.compareWith copy?) := by
  obtain ⟨span, types?⟩ := operand
  cases types? with
  | none =>
      rcases faded.cases with rfl | rfl <;> exact Logged.follows_pure known
  | some types =>
      by_cases scalar : isSingle Ty.isScalar types = true
      · cases first? with
        | none =>
            have absent : copy? = none := by rcases known.known with same | same <;> exact same
            have new (other : List Ty) (same : some types = some other) :
                isSingle Ty.isScalar other = true := Option.some.inj same ▸ scalar
            rw [absent, compare_first span scalar]
            rcases faded.cases with rfl | rfl
            · exact Logged.follows_pure ⟨.none _, new⟩
            · rw [compare_first span scalar]
              exact Logged.follows_pure ⟨.refl _, new⟩
        | some first =>
            have old := known.scalar first rfl
            rw [compare_next span first scalar]
            rcases faded.cases with rfl | rfl
            · exact Logged.follows_silent known
            rcases known.known with rfl | rfl
            · -- The second run takes for its first scalar one that the first run has compared.
              rw [compare_first span scalar]
              intro clean
              have equal : (first == types) = true := by
                by_cases equal : (first == types) = true
                · exact equal
                · simp [equal] at clean
              rw [← scalars_equal old scalar equal]
              exact ⟨⟨.refl _, known.scalar⟩, rfl, List.nil_sublist _, List.nil_sublist _⟩
            · rw [compare_next span first scalar]
              exact Logged.follows_self ⟨.refl _, known.scalar⟩
      · unfold Operand.compareWith
        dsimp only
        rw [if_neg scalar]
        exact Logged.follows_report

theorem compare_all_follows {first? copy? : Outcome} (known : RepresentativeFades first? copy?)
    {visits copies : List Visit} (faded : List.Forall₂ Visit.Follows visits copies) :
    (compareAll first? visits).Follows RepresentativeFades (compareAll copy? copies) := by
  induction faded generalizing first? copy? with
  | nil => exact Logged.follows_pure known
  | cons head _ ih =>
      refine Logged.follows_bind (operand_follows head) fun operand copy operandFaded => ?_
      have compared := compare_with_follows known operandFaded
      refine Logged.follows_bind compared fun next? nextCopy? next => ?_
      exact ih next

theorem comparison_follows {visits copies : List Visit}
    (faded : List.Forall₂ Visit.Follows visits copies) :
    (checkComparison visits).Follows Fades (checkComparison copies) := by
  have start : RepresentativeFades none none := ⟨.refl _, fun _ absent => nomatch absent⟩
  refine Logged.follows_bind (compare_all_follows start faded) fun _ _ _ => ?_
  exact Logged.follows_pure (.refl _)

end TensorLang
