import Mathlib.Data.List.Forall2
import TensorLang.Proofs.Reads
import TensorLang.Proofs.RulesGive

set_option autoImplicit false

namespace TensorLang

open Logged

-- An argument whose type is unknown suits every parameter, and so does any argument a parameter
-- whose type is unknown.
def Var.Takes (parameter : Var) (type? : Option Ty) : Prop :=
  ∀ found expected, type? = some found → parameter.type? = some expected →
    (found == expected) = true

def Routine.Takes (routine : Routine) (types : List (Option Ty)) : Prop :=
  List.Forall₂ (fun type? parameter => parameter.Takes type?) types routine.parameters

theorem Routine.Takes.length {routine : Routine} {types : List (Option Ty)}
    (taken : routine.Takes types) : types.length = routine.parameters.length :=
  List.Forall₂.length_eq taken

theorem require_clean {holds : Bool} {span : Span} {fault : Fault} :
    (Logged.require holds span fault).log.errors = [] ↔ holds = true := by
  cases holds <;> simp

theorem bind_pure_clean {α β : Type} {first : Logged α} {next : α → β} :
    (first >>= fun value => Pure.pure (next value)).log.errors = [] ↔ first.log.errors = [] :=
  bind_clean.trans (and_iff_left rfl)

theorem compared_clean (parameter : Var) (type? : Option Ty) (span : Span)
    (fault : Ty → Ty → Fault) :
    (match type?, parameter.type? with
      | some found, some expected => Logged.require (found == expected) span (fault found expected)
      | _, _ => Pure.pure ()).log.errors = [] ↔ parameter.Takes type? := by
  rw [Var.Takes]
  cases type? with
  | none => simp
  | some found =>
      cases parameter.type? with
      | none => simp
      | some expected => simp

theorem pass_argument_clean (operand : Operand) (parameter : Var) :
    (passArgument operand parameter).log.errors = [] ↔
      operand.argument.log.errors = [] ∧ parameter.Takes operand.argument.value := by
  rw [passArgument, bind_clean]
  exact and_congr_right fun _ => compared_clean _ _ operand.span _

theorem pass_map_argument_clean (routine : Routine) (argument : MapArgument) (parameter : Var) :
    (routine.passMapArgument argument parameter).log.errors = [] ↔
      parameter.Takes argument.type? :=
  compared_clean _ _ argument.span _

theorem zip_clean {α β : Type} {items : List α} {others : List β} {body : α → β → Logged Unit}
    (counts : items.length = others.length) :
    ((items.zip others).forM fun (item, other) => body item other).log.errors = [] ↔
      List.Forall₂ (fun item other => (body item other).log.errors = []) items others := by
  rw [errors_forM, List.flatMap_eq_nil_iff, List.forall₂_iff_zip]
  constructor
  · intro clean
    exact ⟨counts, fun pair => clean _ pair⟩
  · rintro ⟨_, clean⟩ ⟨item, other⟩ pair
    exact clean pair

namespace Routine

variable {routine : Routine} {span : Span}

theorem check_arguments_clean (fixed : routine.isVariadic = false) (operands : List Operand) :
    (routine.checkArguments span operands).log.errors = [] ↔
      (∀ operand ∈ operands, operand.argument.log.errors = []) ∧
        routine.Takes (operands.map fun operand => operand.argument.value) := by
  rw [Takes, List.forall₂_map_left_iff, ← List.forall₂_and_left]
  simp only [← pass_argument_clean]
  rw [checkArguments]
  by_cases counts : operands.length = routine.parameters.length
  · rw [if_pos counts, zip_clean counts]
  · rw [if_neg counts, require_clean, fixed]
    exact iff_of_false Bool.false_ne_true fun passed => counts passed.length_eq

theorem check_map_arguments_clean (arguments : List MapArgument) :
    (routine.checkMapArguments span arguments).log.errors = [] ↔
      routine.Takes (arguments.map MapArgument.type?) := by
  rw [Takes, List.forall₂_map_left_iff]
  simp only [← pass_map_argument_clean routine]
  rw [checkMapArguments]
  by_cases counts : arguments.length = routine.parameters.length
  · rw [if_pos counts, zip_clean counts]
  · rw [if_neg counts]
    exact iff_of_false (List.cons_ne_nil _ _) fun passed => counts passed.length_eq

end Routine

def Visit.argument? (visit : Visit) : Option Ty := visit.mapArgument.value.type?

theorem map_argument_clean (visit : Visit) :
    visit.mapArgument.log.errors = [] ↔
      visit.operand.log.errors = [] ∧ visit.operand.value.argument.log.errors = [] := by
  rw [Visit.mapArgument, bind_clean, bind_pure_clean]

def Visit.Passes (visit : Visit) (type : Ty) : Prop :=
  visit.mapArgument.log.errors = [] ∧ visit.argument? = some type

theorem passes_of_typed {visit : Visit} {type : Ty} (typed : visit.check.value = .one type)
    (silent : visit.check.log.errors = []) : visit.Passes type := by
  have operand : visit.operand.value = ⟨visit.span, .one type⟩ :=
    congrArg (Operand.mk visit.span) typed
  rw [Visit.Passes, map_argument_clean, Visit.argument?, Visit.mapArgument, value_bind, operand]
  exact ⟨⟨bind_clean.mpr ⟨silent, rfl⟩, rfl⟩, rfl⟩

theorem neighbors_found {endpoint : Var} {joined : Ty} {others endpoints : List Var}
    (typed : endpoint.type? = some (.set joined others)) (few : endpoints.length < UInt32.size) :
    neighbors endpoint endpoints = Pure.pure (some (.tuple joined endpoints.length)) := by
  rw [neighbors, Var.set_type_promised typed, promised_ok, pure_bind]
  dsimp only
  rw [if_pos few]

-- An edge whose members have no tuple is a defect and not an error.
theorem neighbors_silent (endpoint : Var) (endpoints : List Var) :
    (neighbors endpoint endpoints).log.errors = [] := by
  rw [neighbors]
  cases endpoint.setType with
  | error defect => rfl
  | ok type =>
      rw [promised_ok, pure_bind]
      dsimp only
      split <;> rfl

section

variable (count : Nat) (span : Span) (partials : List MapArgument) (member : Ty)

theorem map_arguments_silent (endpoints : List Var) :
    (mapArguments count span partials member endpoints).log.errors = [] := by
  cases endpoints with
  | nil => rfl
  | cons endpoint rest =>
      unfold mapArguments
      dsimp only
      split
      · rfl
      · rw [bind_pure_clean]
        exact neighbors_silent endpoint (endpoint :: rest)

theorem map_arguments_over_nodes :
    (mapArguments count span partials member []).value.map MapArgument.type? =
      partials.map MapArgument.type? ++ [some member] :=
  List.map_append

theorem map_arguments_over_edges {endpoint : Var} {joined : Ty} {others rest : List Var}
    (typed : endpoint.type? = some (.set joined others))
    (few : (endpoint :: rest).length < UInt32.size) :
    (mapArguments count span partials member (endpoint :: rest)).value.map MapArgument.type? =
      if partials.length + 1 = count then partials.map MapArgument.type? ++ [some member]
      else partials.map MapArgument.type? ++
        [some member, some (.tuple joined (endpoint :: rest).length)] := by
  unfold mapArguments
  dsimp only
  rw [List.length_append, List.length_singleton]
  split
  · exact List.map_append
  · rw [neighbors_found typed few, pure_bind, value_pure, List.map_append, List.map_append,
      List.append_assoc]
    rfl

end

-- Only one of the two lists can have an argument for every parameter.
theorem Routine.takes_edge (routine : Routine) (types : List (Option Ty)) (member tuple : Ty) :
    routine.Takes (if types.length + 1 = routine.parameters.length then types ++ [some member]
        else types ++ [some member, some tuple]) ↔
      routine.Takes (types ++ [some member]) ∨
        routine.Takes (types ++ [some member, some tuple]) := by
  by_cases fits : types.length + 1 = routine.parameters.length
  · rw [if_pos fits]
    refine (or_iff_left fun taken => ?_).symm
    have counts := taken.length
    simp [← fits] at counts
  · rw [if_neg fits]
    refine (or_iff_right fun taken => fits ?_).symm
    exact List.length_append.symm.trans taken.length

section

variable {table : SymbolTable} {name : Name Node} {routine : Routine} {span : Span}

theorem routine_resolves (known : table.routine? name.text = some routine) :
    name.resolveRoutine table = Pure.pure (some routine) := by
  rw [name.resolve_routine_promised, known]

theorem call_result (known : table.routine? name.text = some routine) (arguments : List Visit) :
    (checkCall table span name arguments).value = some routine.resultTypes := by
  rw [checkCall, routine_resolves known]
  rfl

theorem call_clean_iff (known : table.routine? name.text = some routine)
    (fixed : routine.isVariadic = false) (arguments : List Visit) :
    (checkCall table span name arguments).log.errors = [] ↔
      (∀ visit ∈ arguments, visit.mapArgument.log.errors = []) ∧
        routine.Takes (arguments.map Visit.argument?) := by
  have types : (arguments.map fun visit => visit.operand.value).map (fun operand =>
      operand.argument.value) = arguments.map Visit.argument? := by
    rw [List.map_map]
    rfl
  have passed : (∀ visit ∈ arguments, visit.mapArgument.log.errors = []) ↔
      (∀ visit ∈ arguments, visit.operand.log.errors = []) ∧
        ∀ visit ∈ arguments, visit.operand.value.argument.log.errors = [] := by
    simp only [map_argument_clean]
    exact forall₂_and
  rw [checkCall, bind_clean, routine_resolves known, pure_bind]
  dsimp only
  rw [bind_pure_clean, Routine.check_arguments_clean fixed, value_mapM, errors_mapM,
    List.flatMap_eq_nil_iff, List.forall_mem_map, types, passed, and_assoc]

theorem map_result (known : table.routine? name.text = some routine) (partials : List Visit)
    (target : Name Node) :
    (checkMap table span name partials target).value = some routine.resultTypes := by
  rw [checkMap, routine_resolves known, Logged.value_bind, pure_bind, Logged.value_bind]
  cases (target.resolveSet table fun _ => .mapTarget).value <;> rfl

theorem map_clean_iff (known : table.routine? name.text = some routine) {target : Name Node}
    {symbol : Symbol} {member : Ty} {endpoints : List Var}
    (bound : table.symbol? target.text = some symbol)
    (sets : symbol.var.type? = some (.set member endpoints)) (partials : List Visit) :
    (checkMap table span name partials target).log.errors = [] ↔
      (∀ visit ∈ partials, visit.mapArgument.log.errors = []) ∧
        routine.Takes ((mapArguments routine.parameters.length target.node.span
          (partials.map fun visit => visit.mapArgument.value) member endpoints).value.map
            MapArgument.type?) := by
  have resolved : (target.resolveSet table fun _ => .mapTarget) =
      Pure.pure (some symbol.var) := by
    rw [target.resolve_set_promised, bound]
    dsimp only
    rw [sets]
  rw [checkMap, bind_clean, routine_resolves known, pure_bind, resolved, pure_bind]
  dsimp only
  rw [bind_pure_clean, Routine.checkOver, Var.set_type_promised sets, promised_ok, pure_bind]
  dsimp only
  rw [bind_clean, Routine.check_map_arguments_clean, value_mapM, errors_mapM,
    List.flatMap_eq_nil_iff, and_iff_right (map_arguments_silent ..)]

theorem call_clean_after (known : table.routine? name.text = some routine)
    (fixed : routine.isVariadic = false) (arguments : List Visit) {passed : List Visit}
    {types : List Ty} (typed : List.Forall₂ Visit.Passes passed types) :
    (checkCall table span name (arguments ++ passed)).log.errors = [] ↔
      (∀ visit ∈ arguments, visit.mapArgument.log.errors = []) ∧
        routine.Takes (arguments.map Visit.argument? ++ types.map some) := by
  obtain ⟨silent, known?⟩ := (List.forall₂_and_left passed types).mp typed
  have same : passed.map Visit.argument? = types.map some := by
    rw [← List.forall₂_map_right_iff, ← List.forall₂_map_left_iff, List.forall₂_eq_eq_eq] at known?
    exact known?
  rw [call_clean_iff known fixed, List.map_append, same, List.forall_mem_append,
    and_iff_left silent]

section

variable {target : Name Node} {symbol : Symbol} {member : Ty} {partials : List Visit} {own : Visit}

theorem map_over_nodes (known : table.routine? name.text = some routine)
    (fixed : routine.isVariadic = false) (bound : table.symbol? target.text = some symbol)
    (sets : symbol.var.type? = some (.set member [])) (passes : own.Passes member)
    (callSpan : Span) {callName : Name Node} (same : callName.text = name.text) :
    (checkMap table span name partials target).log.errors = [] ↔
      (checkCall table callSpan callName (partials ++ [own])).log.errors = [] := by
  rw [← same] at known
  have passed : List.Forall₂ Visit.Passes [own] [member] := .cons passes .nil
  rw [map_clean_iff (same ▸ known) bound sets, call_clean_after known fixed partials passed,
    map_arguments_over_nodes, List.map_map]
  rfl

theorem map_over_edges (known : table.routine? name.text = some routine)
    (fixed : routine.isVariadic = false) (bound : table.symbol? target.text = some symbol)
    {endpoint : Var} {rest others : List Var} {joined : Ty}
    (sets : symbol.var.type? = some (.set member (endpoint :: rest)))
    (joins : endpoint.type? = some (.set joined others))
    (few : (endpoint :: rest).length < UInt32.size) (passes : own.Passes member) {ends : Visit}
    (together : ends.Passes (.tuple joined (endpoint :: rest).length))
    (callSpan : Span) {callName : Name Node} (same : callName.text = name.text) :
    (checkMap table span name partials target).log.errors = [] ↔
      (checkCall table callSpan callName (partials ++ [own])).log.errors = [] ∨
        (checkCall table callSpan callName (partials ++ [own, ends])).log.errors = [] := by
  rw [← same] at known
  have alone : List.Forall₂ Visit.Passes [own] [member] := .cons passes .nil
  have both : List.Forall₂ Visit.Passes [own, ends]
      [member, .tuple joined (endpoint :: rest).length] := .cons passes (.cons together .nil)
  rw [map_clean_iff (same ▸ known) bound sets, call_clean_after known fixed partials alone,
    call_clean_after known fixed partials both, map_arguments_over_edges _ _ _ _ joins few,
    ← and_or_left, List.map_map, List.length_map]
  have counted := routine.takes_edge (partials.map Visit.argument?) member
    (.tuple joined (endpoint :: rest).length)
  rw [List.length_map] at counted
  exact and_congr_right fun _ => counted

end

end

section

variable {table : SymbolTable} {node : Node} {name : Name Node}

theorem infer_call_value (arguments : List (Expr Node)) :
    ((Expr.call node name arguments).infer table .read).value =
      (checkCall table node.span name (arguments.map (Expr.visit table))).value := by
  simp [Expr.infer, visits_eq_map]

theorem infer_call_errors (arguments : List (Expr Node)) :
    ((Expr.call node name arguments).infer table .read).log.errors =
      (checkCall table node.span name (arguments.map (Expr.visit table))).log.errors := by
  simp [Expr.infer, visits_eq_map]

theorem infer_map_value (partials : List (Expr Node)) (target : Name Node) :
    ((Expr.map node name partials target).infer table .read).value =
      (checkMap table node.span name (partials.map (Expr.visit table)) target).value := by
  simp [Expr.infer, visits_eq_map]

theorem infer_map_errors (partials : List (Expr Node)) (target : Name Node) :
    ((Expr.map node name partials target).infer table .read).log.errors =
      (checkMap table node.span name (partials.map (Expr.visit table)) target).log.errors := by
  simp [Expr.infer, visits_eq_map]

end

/--
A map of a routine over a set passes some arguments of its own and then a member of the set. Over a
set of nodes it is accepted if and only if the call with these arguments is, and over a set of edges
if and only if that call is or the one that also passes the tuple of what an edge joins. The length
of a tuple has 32 bits. The types of the map are those of the calls, which are known in any case.
-/
theorem map_agrees_with_call {table : SymbolTable} {name set : String} {routine : Routine}
    {symbol : Symbol} {member : Ty} {endpoints : List Var}
    (known : table.routine? name = some routine) (fixed : routine.isVariadic = false)
    (bound : table.symbol? set = some symbol)
    (sets : symbol.var.type? = some (.set member endpoints)) (partials : List (Expr Node))
    {own : Expr Node} (typed : (own.infer table .read).value = .one member)
    (silent : (own.infer table .read).log.errors = [])
    (mapNode mapped target callNode called : Node) :
    let map := (Expr.map mapNode ⟨mapped, name⟩ partials ⟨target, set⟩).infer table .read
    let call := fun arguments =>
      (Expr.call callNode ⟨called, name⟩ arguments).infer table .read
    map.value = some routine.resultTypes ∧ (∀ arguments, (call arguments).value = map.value) ∧
      (endpoints = [] →
        (map.log.errors = [] ↔ (call (partials ++ [own])).log.errors = [])) ∧
      ∀ first rest joined others, endpoints = first :: rest →
        first.type? = some (.set joined others) → endpoints.length < UInt32.size →
        ∀ ends : Expr Node,
          (ends.infer table .read).value = .one (.tuple joined endpoints.length) →
          (ends.infer table .read).log.errors = [] →
          (map.log.errors = [] ↔ (call (partials ++ [own])).log.errors = [] ∨
            (call (partials ++ [own, ends])).log.errors = []) := by
  intro map call
  have passes : (own.visit table).Passes member := passes_of_typed typed silent
  have results : map.value = some routine.resultTypes := by
    rw [infer_map_value]
    exact map_result known _ _
  refine ⟨results, fun arguments => ?_, ?_, ?_⟩
  · rw [infer_call_value, results]
    exact call_result known _
  · rintro rfl
    rw [infer_map_errors, infer_call_errors, List.map_append]
    exact map_over_nodes known fixed bound sets passes callNode.span rfl
  · rintro first rest joined others rfl joins few ends endsTyped endsSilent
    rw [infer_map_errors, infer_call_errors, infer_call_errors, List.map_append, List.map_append]
    exact map_over_edges known fixed bound sets joins few passes
      (passes_of_typed endsTyped endsSilent) callNode.span rfl

theorem springs_mapped :
    let node : Node := ⟨0, .origin⟩
    let point : Element := ⟨"Point", []⟩
    let spring : Element := ⟨"Spring", []⟩
    let points : Var := ⟨0, "points", some (.set (.element point) [])⟩
    let springs : Ty := .set (.element spring) [points, points]
    let ends : Ty := .tuple (.element point) 2
    let routine : Routine :=
      ⟨"force", [⟨1, "factor", some .int⟩, ⟨2, "s", some (.element spring)⟩, ⟨3, "p", some ends⟩],
        [⟨4, "f", some .float⟩], .declared ⟨node, []⟩⟩
    let scope : Scope := ⟨0, [⟨⟨5, "springs", some springs⟩, .read⟩,
      ⟨⟨6, "s", some (.element spring)⟩, .read⟩, ⟨⟨7, "p", some ends⟩, .read⟩,
      ⟨points, .read⟩]⟩
    let table : SymbolTable := ⟨scope, [], 1, 8, [point, spring], [routine]⟩
    let factor : Expr Node := .int node 2
    let own : Expr Node := .ident ⟨node, "s"⟩
    let joined : Expr Node := .ident ⟨node, "p"⟩
    let map := (Expr.map node ⟨node, "force"⟩ [factor] ⟨node, "springs"⟩).infer table .read
    let call := fun arguments => (Expr.call node ⟨node, "force"⟩ arguments).infer table .read
    table.routine? "force" = some routine ∧ routine.isVariadic = false ∧
      (own.infer table .read).value = .one (.element spring) ∧
      (joined.infer table .read).value = .one ends ∧
      map.value = .one .float ∧ map.log.errors = [] ∧
      (call [factor, own]).log.errors.length = 1 ∧
      (call [factor, own, joined]).log.errors = [] := by
  intro node point spring points springs ends routine scope table factor own joined map call
  have known : table.routine? "force" = some routine := rfl
  have typed : (own.infer table .read).value = .one (.element spring) := rfl
  have joinedTyped : (joined.infer table .read).value = .one ends := rfl
  have accepted : (call [factor, own, joined]).log.errors = [] := rfl
  have bound : table.symbol? "springs" = some ⟨⟨5, "springs", some springs⟩, .read⟩ := rfl
  obtain ⟨results, _, _, edges⟩ := map_agrees_with_call known rfl bound rfl [factor] typed rfl
    node node node node node
  have agrees := edges points [points] _ _ rfl rfl (by decide) joined joinedTyped rfl
  exact ⟨known, rfl, typed, joinedTyped, results, agrees.mpr (.inr accepted), rfl, accepted⟩

end TensorLang
