import TensorLang.Proofs.KnownSteps
import TensorLang.Proofs.Sameness

set_option autoImplicit false

namespace TensorLang

theorem list_eq_of_beq {α : Type} [BEq α] {left right : List α}
    (apart : ∀ item ∈ left, ∀ other ∈ right, (item == other) = true → item = other)
    (same : (left == right) = true) : left = right := by
  induction left generalizing right with
  | nil =>
      cases right with
      | nil => rfl
      | cons other others => cases same
  | cons item rest ih =>
      cases right with
      | nil => cases same
      | cons other others =>
          rw [List.cons_beq_cons, Bool.and_eq_true] at same
          obtain ⟨first, later⟩ := List.forall_mem_cons.mp apart
          have head := first other List.mem_cons_self same.1
          have tail := ih (fun listed member later member' =>
            apart listed (List.mem_cons_of_mem _ member) later (List.mem_cons_of_mem _ member'))
            same.2
          rw [head, tail]

section

variable {known : Var → Prop}

theorem IndexSet.eq_of_same {left right : IndexSet Var}
    (apart : ∀ var, left = .set var → ∀ other, right = .set other →
      (var == other) = true → var = other)
    (same : (left == right) = true) : left = right := by
  cases left <;> cases right
  case range.range size other => exact congrArg _ (eq_of_beq same)
  case set.set var other => exact congrArg _ (apart var rfl other rfl same)
  case dynamic.dynamic => rfl
  all_goals cases same

theorem TensorType.eq_of_same {left right : TensorType Var}
    (apart : ∀ var, known var → ∀ other, known other → (var == other) = true → var = other)
    (leftRegular : left.Regular known) (rightRegular : right.Regular known)
    (same : (left == right) = true) : left = right := by
  obtain ⟨component, axes, column⟩ := beq_parts.mp same
  have equal : left.axes = right.axes := by
    refine list_eq_of_beq (fun axis member other otherMember => ?_) axes
    refine list_eq_of_beq fun index indexed later otherIndexed => ?_
    refine IndexSet.eq_of_same fun var set other otherSet => apart var ?_ other ?_
    · exact leftRegular.sets axis member var (set ▸ indexed)
    · exact rightRegular.sets _ otherMember other (otherSet ▸ otherIndexed)
  obtain ⟨_, _, _⟩ := left
  obtain ⟨_, _, _⟩ := right
  cases component
  cases equal
  cases column
  rfl

theorem Element.Registered.eq_of_same {elements : List Element} {left right : Element}
    (leftKnown : left.Registered elements) (rightKnown : right.Registered elements)
    (same : (left == right) = true) : left = right := by
  have names : left.name = right.name := eq_of_beq same
  simp only [Registered] at leftKnown rightKnown
  rw [names, rightKnown] at leftKnown
  exact (Option.some.inj leftKnown).symm

theorem Ty.ends_known {member : Ty} {endpoints : List Var}
    (within : (Ty.set member endpoints).Over known) : ∀ var ∈ endpoints, known var := by
  cases within with
  | set _ _ _ ends => exact ends

theorem Ty.eq_of_same {elements : List Element} {first second : Ty}
    (apart : ∀ var, known var → ∀ other, known other → (var == other) = true → var = other)
    (firstValid : first.WellFormed elements ⊤) (secondValid : second.WellFormed elements ⊤)
    (firstOver : first.Over known) (secondOver : second.Over known)
    (same : (first == second) = true) : first = second := by
  cases firstValid with
  | tensor shape =>
      cases secondValid with
      | tensor other =>
          exact congrArg _ (TensorType.eq_of_same apart (over_tensor.mp firstOver)
            (over_tensor.mp secondOver) same)
      | set | tuple | element => cases same
  | set record endpoints registered =>
      cases secondValid with
      | set other ends otherRegistered =>
          obtain ⟨records, endpointsSame⟩ := Bool.and_eq_true_iff.mp same
          rw [registered.eq_of_same otherRegistered records]
          refine congrArg _ (list_eq_of_beq (fun var member other otherMember => ?_) endpointsSame)
          exact apart var (ends_known firstOver var member) other
            (ends_known secondOver other otherMember)
      | tensor | tuple | element => cases same
  | tuple record length registered =>
      cases secondValid with
      | tuple other count otherRegistered =>
          obtain ⟨records, lengths⟩ := Bool.and_eq_true_iff.mp same
          rw [registered.eq_of_same otherRegistered records, eq_of_beq lengths]
      | tensor | set | element => cases same
  | element record registered =>
      cases secondValid with
      | element other otherRegistered =>
          exact congrArg _ (registered.eq_of_same otherRegistered same)
      | tensor | set | tuple => cases same

end

theorem elements_kept (table : SymbolTable) (steps : List Step) :
    table.elements <+: (table.through steps).elements := by
  induction steps generalizing table with
  | nil => exact List.prefix_refl _
  | cons step rest ih =>
      rw [table.through_cons]
      refine List.IsPrefix.trans ?_ (ih _)
      cases step with
      | bind name type? access =>
          have kept := table.elements_bind name type? access
          exact ⟨[], (List.append_nil _).trans kept.symm⟩
      | element added => exact List.prefix_append ..
      | record | push | pop | routine => exact List.prefix_refl _

def Program.Reaches (program : Program Node) (intrinsics : Bool) (type : Ty) : Prop :=
  ∃ done, done <+: program.steps intrinsics ∧ ((Moment.start intrinsics).after done).Holds type

variable {program : Program Node} {intrinsics : Bool}

theorem Program.same_declaration (program : Program Node) {intrinsics : Bool} {var other : Var}
    {declaration otherDeclaration : Nat}
    (found : (program.variables intrinsics)[declaration]? = some var)
    (otherFound : (program.variables intrinsics)[otherDeclaration]? = some other) :
    (var == other) = true ↔ declaration = otherDeclaration := by
  have apart : ((program.variables intrinsics).map Var.id).Nodup := SymbolTable.declared_apart ..
  constructor
  · intro same
    have ids : var.id = other.id := eq_of_beq same
    refine (List.getElem?_inj ?_ apart).mp ?_
    · rw [List.length_map]
      exact (List.getElem?_eq_some_iff.mp found).1
    · rw [List.getElem?_map, List.getElem?_map, found, otherFound]
      exact congrArg some ids
  · intro same
    rw [same, otherFound] at found
    cases found
    exact ReflBEq.rfl

theorem Program.eq_of_declared (program : Program Node) {intrinsics : Bool} {var other : Var}
    (declared : var ∈ program.variables intrinsics)
    (otherDeclared : other ∈ program.variables intrinsics)
    (same : (var == other) = true) : var = other := by
  obtain ⟨declaration, found⟩ := List.getElem?_of_mem declared
  obtain ⟨otherDeclaration, otherFound⟩ := List.getElem?_of_mem otherDeclared
  rw [(program.same_declaration found otherFound).mp same, otherFound] at found
  exact (Option.some.inj found).symm

namespace Program.Reaches

theorem overVariables {type : Ty} (reached : program.Reaches intrinsics type) :
    type.Over (· ∈ program.variables intrinsics) := by
  obtain ⟨done, early, held⟩ := reached
  exact moments_over program intrinsics early held

theorem wellFormed {type : Ty} (reached : program.Reaches intrinsics type) :
    type.WellFormed
      ((Moment.start intrinsics).table.through (program.steps intrinsics)).elements ⊤ := by
  obtain ⟨done, early, held⟩ := reached
  have valid := (program_leads program intrinsics).sound [] (start_wellFormed intrinsics) done early
    type held
  obtain ⟨rest, whole⟩ := early
  change type.WellFormed ((Moment.start intrinsics).after done).table.elements ⊤ at valid
  rw [after_table] at valid
  rw [← whole, SymbolTable.through_append]
  exact valid.mono (elements_kept _ rest)

end Program.Reaches

-- The element whose fields a value of the type has, or its members have.
def Ty.record? : Ty → Option Element
  | .element record => some record
  | .set (.element record) _ => some record
  | _ => none

def Ty.field? (type : Ty) (name : String) : Option Field := type.record?.bind (·.field? name)

-- Nothing that is asked of a type tells the two apart.
structure Ty.Interchangeable (first second : Ty) : Prop where
  text : first.text = second.text
  fields : ∀ name, Option.Rel (fun left right : Field =>
    left.name = right.name ∧ (left.type == right.type) = true) (first.field? name)
      (second.field? name)
  tensors : Option.Rel (fun left right : TensorType Var =>
    (left.outer == right.outer) = true ∧ (left.block == right.block) = true ∧
      ∃ leftTurned rightTurned, left.transpose = .ok leftTurned ∧
        right.transpose = .ok rightTurned ∧
          Option.Rel (fun turned other => (turned == other) = true) leftTurned rightTurned)
    first.tensor? second.tensor?

theorem option_rel_refl {α : Type} {related : α → α → Prop} (refl : ∀ value, related value value)
    (value? : Option α) : Option.Rel related value? value? := by
  cases value? with
  | none => exact .none
  | some value => exact .some (refl value)

theorem Ty.Interchangeable.refl (type : Ty) : type.Interchangeable type := by
  refine ⟨rfl, fun name => option_rel_refl (fun field => ⟨rfl, ReflBEq.rfl⟩) _,
    option_rel_refl (fun tensor => ?_) _⟩
  exact ⟨ReflBEq.rfl, ReflBEq.rfl, tensor.transposed?, tensor.transposed?,
    tensor.transpose_promised, tensor.transpose_promised,
    option_rel_refl (fun turned => ReflBEq.rfl) _⟩

/--
Equality of types is an equivalence. Of the types that a run comes through, those that are equal are
the same, whatever the moments they are held at, and can stand in for one another. Two sets are
equal index sets only if one declaration has made them both.
-/
theorem equal_types_interchangeable (program : Program Node) (intrinsics : Bool) :
    ((∀ type : Ty, (type == type) = true) ∧
      (∀ first second : Ty, (first == second) = true → (second == first) = true) ∧
      ∀ first second third : Ty, (first == second) = true → (second == third) = true →
        (first == third) = true) ∧
      (∀ left right, program.Reaches intrinsics (.tensor left) →
        program.Reaches intrinsics (.tensor right) →
          ∀ axis ∈ left.axes, ∀ set, IndexSet.set set ∈ axis →
            ∀ otherAxis ∈ right.axes, ∀ other, IndexSet.set other ∈ otherAxis →
              ∃ declaration otherDeclaration : Nat,
                (program.variables intrinsics)[declaration]? = some set ∧
                  (program.variables intrinsics)[otherDeclaration]? = some other ∧
                  (IndexSet.set set == IndexSet.set other ↔ declaration = otherDeclaration)) ∧
      ∀ first second, program.Reaches intrinsics first → program.Reaches intrinsics second →
        ((first == second) = true ↔ first = second) ∧
          ((first == second) = true → first.Interchangeable second) := by
  refine ⟨⟨fun type => ReflBEq.rfl, fun _ _ => PartialEquivBEq.symm,
    fun _ _ _ => PartialEquivBEq.trans⟩, ?_, ?_⟩
  · intro left right leftReached rightReached axis member set indexed otherAxis otherMember other
      otherIndexed
    have declared := (Ty.over_tensor.mp leftReached.overVariables).sets axis member set indexed
    have otherDeclared :=
      (Ty.over_tensor.mp rightReached.overVariables).sets otherAxis otherMember other otherIndexed
    obtain ⟨declaration, found⟩ := List.getElem?_of_mem declared
    obtain ⟨otherDeclaration, otherFound⟩ := List.getElem?_of_mem otherDeclared
    exact ⟨declaration, otherDeclaration, found, otherFound,
      program.same_declaration found otherFound⟩
  · intro first second firstReached secondReached
    have equal : (first == second) = true → first = second :=
      Ty.eq_of_same (fun _ declared _ => program.eq_of_declared declared) firstReached.wellFormed
        secondReached.wellFormed firstReached.overVariables secondReached.overVariables
    constructor
    · exact ⟨equal, fun same => same ▸ ReflBEq.rfl⟩
    · intro same
      rw [equal same]
      exact .refl second

def soundings : Program Node :=
  let name (text : String) : Name Place := ⟨none, text⟩
  let parameter (text : String) (type : TypeExpr Place) : ParameterDecl Place :=
    ⟨none, name text, false, type⟩
  let points := parameter "points" (.set none (name "Point") [])
  let measured (text : String) :=
    parameter text (.tensor none [.set (name "points")] (.scalar none .float) false)
  Program.numbered 0 ⟨none,
    [.element ⟨none, name "Point", [⟨none, name "depth", .scalar none .float⟩]⟩,
      .routine ⟨none, .procedure, name "survey",
        [points, measured "depths", measured "heights"], [], ⟨none, []⟩⟩,
      .routine ⟨none, .procedure, name "report", [points, measured "depths"], [], ⟨none, []⟩⟩]⟩

theorem parameter_reached {program : Program Node} {intrinsics : Bool} {routine : Routine}
    {name : String} (found : (program.run intrinsics).value.routine? name = some routine)
    {var : Var} (member : var ∈ routine.parameters) {type : Ty} (typed : var.type? = some type) :
    program.Reaches intrinsics type := by
  refine ⟨program.steps intrinsics, List.prefix_refl _, ?_⟩
  have left : (Moment.start intrinsics).after (program.steps intrinsics) = _ :=
    (program_leads program intrinsics).reaches []
  rw [left]
  exact .table type (.parameter routine (List.mem_of_find?_eq_some found) var member type typed)

-- The points of the two procedures have one name, and the types over them one text.
theorem soundings_told_apart :
    ∃ depths heights others, soundings.Reaches false depths ∧ soundings.Reaches false heights ∧
      soundings.Reaches false others ∧ depths = heights ∧ depths.Interchangeable heights ∧
      depths.text = "tensor[points](float)" ∧ others.text = depths.text ∧
      (depths == others) = false := by
  let type? (name : String) (position : Nat) : Option Ty :=
    ((soundings.run false).value.routine? name).bind fun routine =>
      routine.parameters[position]?.bind Var.type?
  have reached {name : String} {position : Nat} {type : Ty}
      (known : type? name position = some type) : soundings.Reaches false type := by
    obtain ⟨routine, found, known⟩ := Option.bind_eq_some_iff.mp known
    obtain ⟨var, listed, typed⟩ := Option.bind_eq_some_iff.mp known
    exact parameter_reached found (List.mem_of_getElem? listed) typed
  have known : (type? "survey" 1).isSome = true ∧ (type? "survey" 2).isSome = true ∧
      (type? "report" 1).isSome = true := by decide +kernel
  have same : (type? "survey" 1 == type? "survey" 2) = true := by decide +kernel
  have apart : (type? "survey" 1 == type? "report" 1) = false := by decide +kernel
  have texts : (type? "survey" 1).map Ty.text = some "tensor[points](float)" ∧
      (type? "report" 1).map Ty.text = some "tensor[points](float)" := by decide +kernel
  obtain ⟨depths, depthsKnown⟩ := Option.isSome_iff_exists.mp known.1
  obtain ⟨heights, heightsKnown⟩ := Option.isSome_iff_exists.mp known.2.1
  obtain ⟨others, othersKnown⟩ := Option.isSome_iff_exists.mp known.2.2
  rw [depthsKnown, heightsKnown] at same
  rw [depthsKnown, othersKnown] at apart texts
  have text := Option.some.inj texts.1
  obtain ⟨equal, alike⟩ := (equal_types_interchangeable soundings false).2.2 depths heights
    (reached depthsKnown) (reached heightsKnown)
  exact ⟨depths, heights, others, reached depthsKnown, reached heightsKnown, reached othersKnown,
    equal.mp same, alike same, text, (Option.some.inj texts.2).trans text.symm, apart⟩

end TensorLang
