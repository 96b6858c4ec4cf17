import Mathlib.Data.List.Forall2
import TensorLang.Proofs.Frames
import TensorLang.Tree.Mentions

set_option autoImplicit false

namespace TensorLang

open Logged

def Scope.Agree (known : List Mention) (first second : Scope) : Prop :=
  ∀ name, .variable name ∈ known → second.symbol? name = first.symbol? name

-- The tables know the same under the known names, scope by scope.
structure SymbolTable.SameNames (known : List Mention) (first second : SymbolTable) : Prop where
  scopes : List.Forall₂ (Scope.Agree known) first.scopes second.scopes
  elements : ∀ name, .element name ∈ known → second.element? name = first.element? name
  routines : ∀ name, .routine name ∈ known → second.routine? name = first.routine? name

-- New variables are the same, too.
structure SymbolTable.Agree (known : List Mention) (first second : SymbolTable) : Prop
    extends SymbolTable.SameNames known first second where
  nextVar : second.nextVar = first.nextVar

variable {known : List Mention} {first second : SymbolTable}

theorem Scope.Agree.insert {scope other : Scope} (agree : scope.Agree known other)
    (symbol : Symbol) : (scope.insert symbol).Agree known (other.insert symbol) := by
  intro name mentioned
  by_cases same : symbol.name = name
  · rw [← same, scope.symbol?_insert_self, other.symbol?_insert_self]
  · rw [scope.symbol?_insert_of_ne symbol name same, other.symbol?_insert_of_ne symbol name same]
    exact agree name mentioned

theorem lookup_agrees {scopes others : List Scope}
    (each : List.Forall₂ (Scope.Agree known) scopes others) {name : String}
    (mentioned : .variable name ∈ known) :
    others.findSome? (·.symbol? name) = scopes.findSome? (·.symbol? name) := by
  induction each with
  | nil => rfl
  | cons head _ ih => rw [List.findSome?_cons, List.findSome?_cons, head name mentioned, ih]

namespace SymbolTable.SameNames

variable (agree : first.SameNames known second)
include agree

theorem current : first.current.Agree known second.current := by
  have each := agree.scopes
  rw [scopes_current first, scopes_current second] at each
  exact (List.forall₂_cons.mp each).1

theorem below : List.Forall₂ (Scope.Agree known) first.scopes.tail second.scopes.tail := by
  have each := agree.scopes
  rw [scopes_current first, scopes_current second] at each
  exact (List.forall₂_cons.mp each).2

theorem depth : second.depth = first.depth := by
  have lengths := agree.scopes.length_eq
  rw [scopes_length, scopes_length] at lengths
  exact (Nat.succ.inj lengths).symm

theorem symbol? {name : String} (mentioned : .variable name ∈ known) :
    second.symbol? name = first.symbol? name :=
  lookup_agrees agree.scopes mentioned

theorem local? {name : String} (mentioned : .variable name ∈ known) :
    second.local? name = first.local? name :=
  agree.current name mentioned

theorem symbol {name : String} (mentioned : .variable name ∈ known) :
    second.symbol name = first.symbol name := by
  simp only [SymbolTable.symbol]
  rw [agree.symbol? mentioned]

end SymbolTable.SameNames

namespace SymbolTable.Agree

variable (agree : first.Agree known second)
include agree

theorem push : first.push.Agree known second.push := by
  refine ⟨⟨?_, agree.elements, agree.routines⟩, agree.nextVar⟩
  rw [scopes_push, scopes_push]
  exact .cons (fun _ _ => rfl) agree.scopes

theorem pop : first.pop.Agree known second.pop := by
  refine ⟨⟨?_, agree.elements, agree.routines⟩, agree.nextVar⟩
  have deep := agree.depth
  have each := agree.below
  have whole := agree.scopes
  obtain ⟨root, inner, nextScope, nextVar, elements, routines⟩ := first
  obtain ⟨otherRoot, otherInner, otherNextScope, otherNextVar, otherElements, otherRoutines⟩ :=
    second
  cases inner with
  | nil =>
      cases otherInner with
      | nil => exact whole
      | cons otherScope otherOuter => exact (nomatch deep)
  | cons scope outer =>
      cases otherInner with
      | nil => exact (nomatch deep)
      | cons otherScope otherOuter => exact each

theorem fresh (name : String) (type? : Option Ty) :
    second.fresh name type? = first.fresh name type? := by
  simp only [SymbolTable.fresh]
  rw [agree.nextVar]

theorem bind (name : String) (type? : Option Ty) (access : Access) :
    (first.bind name type? access).Agree known (second.bind name type? access) := by
  obtain ⟨outer, before, after⟩ := first.scopes_bind name type? access
  obtain ⟨otherOuter, otherBefore, otherAfter⟩ := second.scopes_bind name type? access
  have each := agree.scopes
  rw [before, otherBefore] at each
  obtain ⟨head, tail⟩ := List.forall₂_cons.mp each
  refine ⟨⟨?_, fun other mentioned => ?_, fun other mentioned => ?_⟩,
    congrArg (· + 1) agree.nextVar⟩
  · rw [after, otherAfter, agree.fresh]
    exact .cons (head.insert _) tail
  · simp only [SymbolTable.element?, elements_bind]
    exact agree.elements other mentioned
  · simp only [SymbolTable.routine?, routines_bind]
    exact agree.routines other mentioned

end SymbolTable.Agree

theorem bind_same_names (table : SymbolTable) {name : String} (new : .variable name ∉ known)
    (type? : Option Ty) (access : Access) :
    table.SameNames known (table.bind name type? access) := by
  obtain ⟨outer, before, after⟩ := table.scopes_bind name type? access
  refine ⟨?_, fun other _ => ?_, fun other _ => ?_⟩
  · rw [before, after]
    refine .cons (fun other mentioned => ?_) (List.forall₂_same.mpr fun _ _ _ _ => rfl)
    have different : name ≠ other := fun same => new (same ▸ mentioned)
    exact table.current.symbol?_insert_of_ne _ other different
  · rw [SymbolTable.element?, SymbolTable.element?, SymbolTable.elements_bind]
  · rw [SymbolTable.routine?, SymbolTable.routine?, SymbolTable.routines_bind]

section Annotations

variable (agree : first.SameNames known second)
include agree

theorem resolve_element_agrees {name : Name Node} (mentioned : .element name.text ∈ known) :
    name.resolveElement second = name.resolveElement first := by
  rw [name.resolve_element_promised, name.resolve_element_promised,
    agree.elements name.text mentioned]

theorem resolve_set_agrees {name : Name Node} (mentioned : .variable name.text ∈ known)
    (wrong : Ty → Mismatch) : name.resolveSet second wrong = name.resolveSet first wrong := by
  rw [name.resolve_set_promised, name.resolve_set_promised, agree.symbol? mentioned]

theorem resolve_routine_agrees {name : Name Node} (mentioned : .routine name.text ∈ known) :
    name.resolveRoutine second = name.resolveRoutine first := by
  rw [name.resolve_routine_promised, name.resolve_routine_promised,
    agree.routines name.text mentioned]

theorem domain_agrees {domain : Domain Node} (inside : domain.mentions ⊆ known) :
    domain.resolve second = domain.resolve first := by
  cases domain with
  | range node size => rfl
  | dynamic node => rfl
  | set name =>
      have mentioned : .variable name.text ∈ known := inside (List.mem_singleton.mpr rfl)
      rw [Domain.resolve, Domain.resolve, Name.resolveIndexSet, Name.resolveIndexSet,
        resolve_set_agrees agree mentioned]

omit agree in
theorem mapM_congr {α β : Type} {items : List β} {body other : β → Logged α}
    (same : ∀ item ∈ items, other item = body item) : items.mapM other = items.mapM body := by
  induction items with
  | nil => rfl
  | cons item rest ih =>
      obtain ⟨head, tail⟩ := List.forall_mem_cons.mp same
      rw [List.mapM_cons, List.mapM_cons, head, ih tail]

theorem annotation_agrees {written : TypeExpr Node} (inside : written.mentions ⊆ known) :
    written.resolve second = written.resolve first := by
  induction written with
  | scalar node component => rfl
  | element name => exact resolve_element_agrees agree (inside (List.mem_singleton.mpr rfl))
  | set node member endpoints =>
      obtain ⟨head, tail⟩ := List.cons_subset.mp inside
      have each : endpoints.mapM (Name.resolveEndpoint second) =
          endpoints.mapM (Name.resolveEndpoint first) :=
        mapM_congr fun name listed =>
          resolve_set_agrees agree (tail (List.mem_map_of_mem listed)) _
      rw [TypeExpr.resolve, TypeExpr.resolve, resolve_element_agrees agree head, each]
  | tuple node member lengthNode length =>
      have mentioned : .element member.text ∈ known := inside (List.mem_singleton.mpr rfl)
      rw [TypeExpr.resolve, TypeExpr.resolve, resolve_element_agrees agree mentioned]
  | tensor node domains inner column ih =>
      obtain ⟨head, tail⟩ := List.append_subset.mp inside
      have each : domains.mapM (Domain.resolve second) = domains.mapM (Domain.resolve first) :=
        mapM_congr fun domain listed =>
          domain_agrees agree fun _ member => tail (List.mem_flatMap_of_mem listed member)
      rw [TypeExpr.resolve, TypeExpr.resolve, ih head, each]

end Annotations

theorem bare_ident_mentioned {expression : Expr Node} {name : Name Node}
    (bare : expression.bare.ident? = some name) : .variable name.text ∈ expression.mentions := by
  cases expression with
  | paren node inner =>
      have inside : inner.bare.ident? = some name := bare
      rw [Expr.mentions]
      exact bare_ident_mentioned inside
  | ident other =>
      rw [Expr.mentions, Option.some.inj bare]
      exact List.mem_singleton.mpr rfl
  | _ => cases bare

theorem check_field_agrees (agree : first.SameNames known second) {set? : Option (Name Node)}
    (inside : ∀ name, set? = some name → .variable name.text ∈ known) (span : Span)
    (base : Operand) (name : Name Node) :
    checkField second span base set? name = checkField first span base set? name := by
  have leading : leadingSet second set? = leadingSet first set? := by
    cases set? with
    | none => rfl
    | some set => rw [leadingSet, leadingSet, agree.symbol (inside set rfl)]
  simp only [checkField, Field.ofMembers, leading]

mutual
theorem infer_agrees (agree : first.SameNames known second) (mode : Mode)
    (expression : Expr Node) (inside : expression.mentions ⊆ known) :
    expression.infer second mode = expression.infer first mode := by
  cases expression with
  | binary node operator left right =>
      rw [Expr.mentions] at inside
      obtain ⟨onLeft, onRight⟩ := List.append_subset.mp inside
      rw [Expr.infer, Expr.infer, infer_agrees agree .read left onLeft,
        infer_agrees agree .read right onRight]
  | compare node operands operators =>
      rw [Expr.mentions] at inside
      rw [Expr.infer, Expr.infer, visits_agree agree operands inside]
  | unary node operator operand =>
      rw [Expr.mentions] at inside
      rw [Expr.infer, Expr.infer, infer_agrees agree .read operand inside]
  | transpose node operand =>
      rw [Expr.mentions] at inside
      rw [Expr.infer, Expr.infer, infer_agrees agree .read operand inside]
  | call node routine arguments =>
      rw [Expr.mentions] at inside
      obtain ⟨called, onArguments⟩ := List.cons_subset.mp inside
      rw [Expr.infer, Expr.infer, checkCall, checkCall, visits_agree agree arguments onArguments,
        resolve_routine_agrees agree called]
  | map node routine partials target =>
      rw [Expr.mentions] at inside
      obtain ⟨called, others⟩ := List.cons_subset.mp inside
      obtain ⟨set, onPartials⟩ := List.cons_subset.mp others
      rw [Expr.infer, Expr.infer, checkMap, checkMap, visits_agree agree partials onPartials,
        resolve_routine_agrees agree called, resolve_set_agrees agree set]
  | read node base indices =>
      rw [Expr.mentions] at inside
      obtain ⟨onBase, onIndices⟩ := List.append_subset.mp inside
      rw [Expr.infer, Expr.infer, infer_agrees agree mode.ofBase base onBase,
        positions_agree agree indices onIndices]
  | field node base name =>
      rw [Expr.mentions] at inside
      have set (name : Name Node) (bare : base.bare.ident? = some name) :
          .variable name.text ∈ known := inside (bare_ident_mentioned bare)
      rw [Expr.infer, Expr.infer, infer_agrees agree mode.ofBase base inside]
      simp only [check_field_agrees agree set]
  | paren node inner =>
      rw [Expr.mentions] at inside
      rw [Expr.infer, Expr.infer, infer_agrees agree mode inner inside]
  | ident name =>
      rw [Expr.mentions] at inside
      rw [Expr.infer, Expr.infer, name.infer_promised, name.infer_promised,
        agree.symbol? (inside (List.mem_singleton.mpr rfl))]
  | int node value => rw [Expr.infer, Expr.infer]
  | float node value => rw [Expr.infer, Expr.infer]
  | bool node value => rw [Expr.infer, Expr.infer]
  | dense literal => rw [Expr.infer, Expr.infer]
theorem visits_agree (agree : first.SameNames known second) (operands : List (Expr Node))
    (inside : exprMentions operands ⊆ known) :
    visits second operands = visits first operands := by
  cases operands with
  | nil => rw [visits, visits]
  | cons operand rest =>
      rw [exprMentions] at inside
      obtain ⟨head, tail⟩ := List.append_subset.mp inside
      rw [visits, visits, infer_agrees agree .read operand head, visits_agree agree rest tail]
theorem positions_agree (agree : first.SameNames known second) (indices : List (Index Node))
    (inside : indexMentions indices ⊆ known) :
    positions second indices = positions first indices := by
  match indices with
  | [] => rw [positions, positions]
  | .slice node :: rest =>
      rw [indexMentions] at inside
      rw [positions, positions, positions_agree agree rest inside]
  | .at index :: rest =>
      rw [indexMentions] at inside
      obtain ⟨head, tail⟩ := List.append_subset.mp inside
      rw [positions, positions, infer_agrees agree .read index head,
        positions_agree agree rest tail]
end

end TensorLang
