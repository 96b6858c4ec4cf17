import TensorLang.Proofs.Agreement
import TensorLang.Proofs.ScopeDiscipline

set_option autoImplicit false

namespace TensorLang

namespace Logged

variable {α β γ δ : Type}

-- Two checks find the same, and give values that are related.
structure Alike (related : α → β → Prop) (first : Logged α) (second : Logged β) : Prop where
  value : related first.value second.value
  log : second.log = first.log

variable {related : α → β → Prop} {settled : γ → δ → Prop}

theorem alike_pure {value : α} {copy : β} (known : related value copy) :
    (Pure.pure value : Logged α).Alike related (Pure.pure copy) :=
  ⟨known, rfl⟩

theorem alike_bind_value {first : Logged α} {second : Logged β} {next : α → Logged γ}
    {other : β → Logged δ} (start : first.Alike related second)
    (rest : related first.value second.value →
      (next first.value).Alike settled (other second.value)) :
    (first >>= next).Alike settled (second >>= other) := by
  have late := rest start.value
  refine ⟨late.value, ?_⟩
  rw [log_bind, log_bind, start.log, late.log]

theorem alike_bind {first : Logged α} {second : Logged β} {next : α → Logged γ}
    {other : β → Logged δ} (start : first.Alike related second)
    (rest : ∀ value copy, related value copy → (next value).Alike settled (other copy)) :
    (first >>= next).Alike settled (second >>= other) :=
  alike_bind_value start (rest first.value second.value)

theorem alike_same {check : Logged α} {next : α → Logged γ} {other : α → Logged δ}
    (rest : ∀ value, (next value).Alike settled (other value)) :
    (check >>= next).Alike settled (check >>= other) :=
  ⟨(rest check.value).value, congrArg (check.log ++ ·) (rest check.value).log⟩

end Logged

open Logged

variable {known : List Mention} {first second : SymbolTable}

theorem value_agrees (agree : first.Agree known second) {value? : Option (Expr Node)}
    (inside : valueMentions value? ⊆ known) :
    Expr.inferValue second value? = Expr.inferValue first value? := by
  cases value? with
  | none => rfl
  | some value => exact infer_agrees agree.toSameNames .read value inside

theorem declaration_agrees (agree : first.Agree known second) (constancy : Constancy)
    {declaration : Declaration Node} (inside : declaration.mentions ⊆ known) :
    (declaration.check first constancy).Alike (SymbolTable.Agree known)
      (declaration.check second constancy) := by
  obtain ⟨named, parts⟩ := List.cons_subset.mp inside
  obtain ⟨onType, onValue⟩ := List.append_subset.mp parts
  simp only [Declaration.check]
  rw [annotation_agrees agree.toSameNames onType, value_agrees agree onValue,
    first.binds_typed_promised, second.binds_typed_promised, agree.local? named]
  refine alike_same fun declared? => alike_same fun found? => alike_same fun bound => ?_
  cases bound with
  | true => exact alike_same fun _ => alike_pure agree
  | false =>
      exact alike_same fun _ => alike_pure (agree.bind declaration.name.text declared? _)

theorem mentions_of_mem {expression : Expr Node} {expressions : List (Expr Node)}
    (listed : expression ∈ expressions) : expression.mentions ⊆ exprMentions expressions := by
  induction expressions with
  | nil => exact (nomatch listed)
  | cons head rest ih =>
      rw [exprMentions]
      rcases List.mem_cons.mp listed with same | later
      · rw [same]
        exact List.subset_append_left ..
      · exact List.Subset.trans (ih later) (List.subset_append_right ..)

theorem check_targets_agree (agree : first.Agree known second) (span : Span)
    {targets : List (Expr Node)} {value : Expr Node} (onValue : value.mentions ⊆ known)
    (onTargets : exprMentions targets ⊆ known) :
    checkTargets second span targets value = checkTargets first span targets value := by
  have each (target : Expr Node) (listed : target ∈ targets) :
      target.checkTarget second = target.checkTarget first := by
    have inside := List.Subset.trans (mentions_of_mem listed) onTargets
    simp only [Expr.checkTarget]
    rw [infer_agrees agree.toSameNames target.targetMode target inside]
  simp only [checkTargets]
  rw [infer_agrees agree.toSameNames .read value onValue, mapM_congr each]

theorem declare_target_agrees (agree : first.Agree known second) {target : Expr Node}
    (inside : target.mentions ⊆ known) (type? : Option Ty) :
    (first.declareTarget target type?).Agree known (second.declareTarget target type?) := by
  cases target with
  | ident name =>
      rw [Expr.mentions] at inside
      simp only [SymbolTable.declareTarget, Expr.ident?]
      rw [agree.symbol? (inside (List.mem_singleton.mpr rfl))]
      cases first.symbol? name.text with
      | some symbol => exact agree
      | none => exact agree.bind name.text type? .readWrite
  | _ => exact agree

theorem declare_targets_agree (agree : first.Agree known second)
    {targets : List (Expr Node × Option Ty)}
    (inside : ∀ target ∈ targets, target.1.mentions ⊆ known) :
    (first.declareTargets targets).Agree known (second.declareTargets targets) := by
  simp only [SymbolTable.declareTargets]
  induction targets generalizing first second with
  | nil => exact agree
  | cons target rest ih =>
      obtain ⟨head, tail⟩ := List.forall_mem_cons.mp inside
      exact ih (declare_target_agrees agree head target.2) tail

theorem assignment_agrees (agree : first.Agree known second) (span : Span)
    {targets : List (Expr Node)} {value : Expr Node} (onValue : value.mentions ⊆ known)
    (onTargets : exprMentions targets ⊆ known) :
    (checkAssignment first span targets value).Alike (SymbolTable.Agree known)
      (checkAssignment second span targets value) := by
  simp only [checkAssignment]
  rw [check_targets_agree agree span onValue onTargets]
  refine ⟨declare_targets_agree agree fun target listed => ?_, rfl⟩
  have member : target.1 ∈ targets := (List.of_mem_zip listed).1
  exact List.Subset.trans (mentions_of_mem member) onTargets

theorem check_bounds_agree (agree : first.Agree known second) {lower upper : Expr Node}
    (onLower : lower.mentions ⊆ known) (onUpper : upper.mentions ⊆ known) :
    checkBounds second lower upper = checkBounds first lower upper := by
  simp only [checkBounds]
  rw [infer_agrees agree.toSameNames .read lower onLower,
    infer_agrees agree.toSameNames .read upper onUpper]

mutual
theorem stmt_agrees {first second : SymbolTable} (agree : first.Agree known second)
    (statement : Stmt Node) (inside : statement.mentions ⊆ known) :
    (statement.check first).Alike (SymbolTable.Agree known) (statement.check second) := by
  cases statement with
  | «variable» declaration => exact declaration_agrees agree .variable inside
  | constant declaration => exact declaration_agrees agree .constant inside
  | loop node condition body =>
      rw [Stmt.mentions] at inside
      obtain ⟨onCondition, onBody⟩ := List.append_subset.mp inside
      rw [Stmt.check, Stmt.check, infer_agrees agree.toSameNames .read condition onCondition]
      refine alike_same fun types => ?_
      refine alike_bind (block_agrees agree.push body onBody) fun _ _ left => ?_
      exact alike_same fun _ => alike_pure left.pop
  | branch node condition thenBlock elseBlock =>
      cases elseBlock with
      | none =>
          rw [Stmt.mentions] at inside
          obtain ⟨onCondition, onThen⟩ := List.append_subset.mp inside
          rw [Stmt.check, Stmt.check, infer_agrees agree.toSameNames .read condition onCondition]
          refine alike_same fun types => ?_
          refine alike_bind (block_agrees agree.push thenBlock onThen) fun _ _ left => ?_
          exact alike_same fun _ => alike_pure left.pop
      | some elseBlock =>
          rw [Stmt.mentions] at inside
          obtain ⟨onCondition, onBlocks⟩ := List.append_subset.mp inside
          obtain ⟨onThen, onElse⟩ := List.append_subset.mp onBlocks
          rw [Stmt.check, Stmt.check, infer_agrees agree.toSameNames .read condition onCondition]
          refine alike_same fun types => ?_
          refine alike_bind (block_agrees agree.push thenBlock onThen) fun _ _ taken => ?_
          refine alike_bind (block_agrees taken.pop.push elseBlock onElse) fun _ _ left => ?_
          exact alike_same fun _ => alike_pure left.pop
  | forRange node counter domain lower upper body =>
      rw [Stmt.mentions] at inside
      obtain ⟨_, parts⟩ := List.cons_subset.mp inside
      obtain ⟨onLower, parts⟩ := List.append_subset.mp parts
      obtain ⟨onUpper, onBody⟩ := List.append_subset.mp parts
      rw [Stmt.check, Stmt.check, check_bounds_agree agree.push onLower onUpper]
      refine alike_same fun _ => ?_
      have counting := agree.push.bind counter.text (some .int) .read
      exact alike_bind (block_agrees counting body onBody) fun _ _ left => alike_pure left.pop
  | forSet node counter domain set body =>
      rw [Stmt.mentions] at inside
      obtain ⟨_, parts⟩ := List.cons_subset.mp inside
      obtain ⟨onSet, onBody⟩ := List.cons_subset.mp parts
      rw [Stmt.check, Stmt.check, Name.resolveIndexSet, Name.resolveIndexSet,
        resolve_set_agrees agree.push.toSameNames onSet]
      refine alike_same fun _ => ?_
      have counting := agree.push.bind counter.text (some .int) .read
      exact alike_bind (block_agrees counting body onBody) fun _ _ left => alike_pure left.pop
  | print node value =>
      rw [Stmt.mentions] at inside
      rw [Stmt.check, Stmt.check, checkPrint, checkPrint,
        infer_agrees agree.toSameNames .read value inside]
      exact alike_same fun _ => alike_pure agree
  | assign node targets value =>
      rw [Stmt.mentions] at inside
      obtain ⟨onValue, onTargets⟩ := List.append_subset.mp inside
      rw [Stmt.check, Stmt.check]
      exact assignment_agrees agree node.span onValue onTargets
  | eval node value =>
      rw [Stmt.mentions] at inside
      rw [Stmt.check, Stmt.check, infer_agrees agree.toSameNames .read value inside]
      exact alike_same fun _ => alike_pure agree
theorem block_agrees {first second : SymbolTable} (agree : first.Agree known second)
    (block : Block Node) (inside : block.mentions ⊆ known) :
    (block.check first).Alike (SymbolTable.Agree known) (block.check second) := by
  obtain ⟨node, statements⟩ := block
  rw [Block.mentions] at inside
  rw [Block.check, Block.check]
  exact stmts_agree agree statements inside
theorem stmts_agree {first second : SymbolTable} (agree : first.Agree known second)
    (statements : List (Stmt Node)) (inside : stmtMentions statements ⊆ known) :
    (checkStmts first statements).Alike (SymbolTable.Agree known)
      (checkStmts second statements) := by
  cases statements with
  | nil =>
      rw [checkStmts, checkStmts]
      exact alike_pure agree
  | cons statement rest =>
      rw [stmtMentions] at inside
      obtain ⟨head, tail⟩ := List.append_subset.mp inside
      rw [checkStmts, checkStmts]
      exact alike_bind (stmt_agrees agree statement head) fun _ _ after =>
        stmts_agree after rest tail
end

theorem bind_slots_agree (agree : first.Agree known second) {slots : List Slot}
    (inside : ∀ slot ∈ slots, slot.type.mentions ⊆ known) :
    (bindSlots first slots).Alike
      (fun bound copy => bound.1.Agree known copy.1 ∧ copy.2 = bound.2)
      (bindSlots second slots) := by
  induction slots generalizing first second with
  | nil => exact alike_pure ⟨agree, rfl⟩
  | cons slot rest ih =>
      obtain ⟨head, tail⟩ := List.forall_mem_cons.mp inside
      rw [bindSlots, bindSlots, annotation_agrees agree.toSameNames head]
      refine alike_same fun type? => ?_
      cases type? with
      | none =>
          refine alike_bind (ih agree tail) fun bound copy same => ?_
          exact alike_pure ⟨same.1, congrArg (none :: ·) same.2⟩
      | some type =>
          dsimp only
          rw [agree.fresh]
          refine alike_bind (ih (agree.bind slot.name (some type) slot.access) tail)
            fun bound copy same => ?_
          exact alike_pure ⟨same.1, congrArg (some _ :: ·) same.2⟩

theorem check_fields_agree (agree : first.Agree known second) {fields : List (FieldDecl Node)}
    (inside : ∀ field ∈ fields, field.type.mentions ⊆ known) (declared : List String) :
    checkFields second declared fields = checkFields first declared fields := by
  induction fields generalizing declared with
  | nil => rfl
  | cons field rest ih =>
      obtain ⟨head, tail⟩ := List.forall_mem_cons.mp inside
      simp only [checkFields]
      simp only [annotation_agrees agree.toSameNames head, ih tail]

-- What a definition does to a table that is at its root.
inductive Effect where
  | nothing
  | binding (symbol : Symbol)
  | element (record : Element)
  | routine (routine : Routine)

def Effect.on (table : SymbolTable) : Effect → SymbolTable
  | .nothing => table
  | .binding symbol => { table with root := table.root.insert symbol }
  | .element record => { table with elements := table.elements ++ [record] }
  | .routine added => { table with routines := table.routines ++ [added] }

-- One effect takes the first two tables to the others, but for their counters. The counters of
-- variables go on together.
structure SymbolTable.SameEffect (first second after other : SymbolTable) : Prop where
  nextVar : other.nextVar = after.nextVar
  effect : ∃ effect : Effect, (effect.on first).Keeps after ∧ (effect.on second).Keeps other

theorem no_effect (agree : first.Agree known second) : first.SameEffect second first second :=
  ⟨agree.nextVar, .nothing, .refl first, .refl second⟩

theorem bind_keeps {table : SymbolTable} (root : table.depth = 0) (name : String)
    (type? : Option Ty) (access : Access) :
    ((Effect.binding ⟨table.fresh name type?, access⟩).on table).Keeps
      (table.bind name type? access) := by
  obtain ⟨bottom, inner, nextScope, nextVar, elements, routines⟩ := table
  obtain rfl : inner = [] := List.eq_nil_of_length_eq_zero root
  exact ⟨rfl, rfl, rfl⟩

theorem bind_effect (agree : first.Agree known second) (root : first.depth = 0) (name : String)
    (type? : Option Ty) (access : Access) :
    first.SameEffect second (first.bind name type? access) (second.bind name type? access) := by
  refine ⟨(agree.bind name type? access).nextVar, .binding ⟨first.fresh name type?, access⟩,
    bind_keeps root name type? access, ?_⟩
  rw [← agree.fresh]
  exact bind_keeps (agree.depth.trans root) name type? access

theorem element_effect (agree : first.Agree known second) (declaration : ElementDecl Node)
    (inside : (Definition.element declaration).mentions ⊆ known) :
    (declaration.check first).Alike (first.SameEffect second) (declaration.check second) := by
  obtain ⟨named, onFields⟩ := List.cons_subset.mp inside
  have each (field : FieldDecl Node) (listed : field ∈ declaration.fields) :
      field.type.mentions ⊆ known :=
    fun _ member => onFields (List.mem_flatMap_of_mem listed member)
  have same := agree.elements declaration.name.text named
  rw [ElementDecl.check, ElementDecl.check, check_fields_agree agree each]
  refine alike_same fun fields => ?_
  cases found : first.element? declaration.name.text with
  | some record =>
      rw [found] at same
      rw [same]
      exact alike_same fun _ => alike_pure (no_effect agree)
  | none =>
      rw [found] at same
      rw [same]
      dsimp only
      rw [SymbolTable.add_element_free _ found, SymbolTable.add_element_free _ same,
        SymbolTable.registering_ok, SymbolTable.registering_ok]
      let record : Element := ⟨declaration.name.text, fields⟩
      exact alike_pure ⟨agree.nextVar, .element record, .refl _, .refl _⟩

theorem external_effect (agree : first.Agree known second) (root : first.depth = 0)
    (declaration : ExternalDecl Node)
    (inside : (Definition.external declaration).mentions ⊆ known) :
    (declaration.check first).Alike (first.SameEffect second) (declaration.check second) := by
  obtain ⟨named, onType⟩ := List.cons_subset.mp inside
  rw [ExternalDecl.check, ExternalDecl.check, annotation_agrees agree.toSameNames onType]
  refine alike_same fun type? => ?_
  dsimp only
  rw [agree.symbol? named]
  cases first.symbol? declaration.name.text with
  | some symbol => exact alike_same fun _ => alike_pure (no_effect agree)
  | none => exact alike_pure (bind_effect agree root declaration.name.text type? .readWrite)

theorem constant_effect (agree : first.Agree known second) (root : first.depth = 0)
    (declaration : Declaration Node)
    (inside : (Definition.constant declaration).mentions ⊆ known) :
    (declaration.check first .constant).Alike (first.SameEffect second)
      (declaration.check second .constant) := by
  obtain ⟨named, parts⟩ := List.cons_subset.mp inside
  have onType := (List.append_subset.mp parts).1
  refine ⟨?_, (declaration_agrees agree .constant inside).log⟩
  rw [declaration_value, declaration_value, annotation_agrees agree.toSameNames onType,
    agree.local? named]
  by_cases bound : (first.local? declaration.name.text).any (·.var.type?.isSome) = true
  · rw [if_pos bound, if_pos bound]
    exact no_effect agree
  · rw [if_neg bound, if_neg bound]
    exact bind_effect agree root declaration.name.text _ .read

theorem register_effect {firstLeft secondLeft : SymbolTable} (left : first.Keeps firstLeft)
    (right : second.Keeps secondLeft) (nextVar : secondLeft.nextVar = firstLeft.nextVar)
    (declaration : RoutineDecl Node)
    (same : second.routine? declaration.name.text = first.routine? declaration.name.text)
    (parameters results : List (Option Var)) :
    (declaration.register firstLeft parameters results).Alike (first.SameEffect second)
      (declaration.register secondLeft parameters results) := by
  have unchanged : first.SameEffect second firstLeft secondLeft :=
    ⟨nextVar, .nothing, left, right⟩
  have known : firstLeft.routine? declaration.name.text =
      first.routine? declaration.name.text := by
    simp only [SymbolTable.routine?]
    rw [left.registries.routines]
  have copied : secondLeft.routine? declaration.name.text =
      first.routine? declaration.name.text := by
    rw [← same]
    simp only [SymbolTable.routine?]
    rw [right.registries.routines]
  simp only [RoutineDecl.register]
  cases allPresent parameters with
  | none => exact alike_pure unchanged
  | some parameters =>
      cases allPresent results with
      | none => exact alike_pure unchanged
      | some results =>
          dsimp only
          cases found : first.routine? declaration.name.text with
          | some routine =>
              rw [found] at known copied
              rw [known, copied]
              exact alike_same fun _ => alike_pure unchanged
          | none =>
              let routine : Routine :=
                ⟨declaration.name.text, parameters, results, .declared declaration.body⟩
              rw [found] at known copied
              rw [known, copied]
              dsimp only
              rw [SymbolTable.add_routine_free routine known,
                SymbolTable.add_routine_free routine copied, SymbolTable.registering_ok,
                SymbolTable.registering_ok]
              refine alike_pure ⟨nextVar, .routine routine, ⟨left.scopes, ?_, ?_⟩,
                ⟨right.scopes, ?_, ?_⟩⟩
              · exact left.registries.elements
              · exact congrArg (· ++ [routine]) left.registries.routines
              · exact right.registries.elements
              · exact congrArg (· ++ [routine]) right.registries.routines

theorem routine_effect (agree : first.Agree known second) (declaration : RoutineDecl Node)
    (inside : (Definition.routine declaration).mentions ⊆ known) :
    (declaration.check first).Alike (first.SameEffect second) (declaration.check second) := by
  obtain ⟨named, parts⟩ := List.cons_subset.mp inside
  obtain ⟨onParameters, parts⟩ := List.append_subset.mp parts
  obtain ⟨onResults, onBody⟩ := List.append_subset.mp parts
  have parameterTypes (slot : Slot)
      (listed : slot ∈ declaration.parameters.map ParameterDecl.slot) :
      slot.type.mentions ⊆ known := by
    obtain ⟨parameter, member, rfl⟩ := List.mem_map.mp listed
    exact fun _ within =>
      onParameters (List.mem_flatMap_of_mem member (List.mem_cons_of_mem _ within))
  have resultTypes (slot : Slot) (listed : slot ∈ declaration.results.map ResultDecl.slot) :
      slot.type.mentions ⊆ known := by
    obtain ⟨result, member, rfl⟩ := List.mem_map.mp listed
    exact fun _ within =>
      onResults (List.mem_flatMap_of_mem member (List.mem_cons_of_mem _ within))
  rw [RoutineDecl.check, RoutineDecl.check]
  refine alike_bind_value (bind_slots_agree agree.push parameterTypes) fun parameters => ?_
  refine alike_bind_value (bind_slots_agree parameters.1 resultTypes) fun results => ?_
  refine alike_bind_value (block_agrees results.1 declaration.body onBody) fun body => ?_
  rw [parameters.2, results.2]
  exact register_effect (declaration.left_keeps first) (declaration.left_keeps second)
    body.pop.nextVar declaration (agree.routines declaration.name.text named) _ _

def Mention.Agrees (first second : SymbolTable) : Mention → Prop
  | .variable name => second.root.symbol? name = first.root.symbol? name
  | .element name => second.element? name = first.element? name
  | .routine name => second.routine? name = first.routine? name

theorem agree_at_root (firstRoot : first.depth = 0) (secondRoot : second.depth = 0)
    (nextVar : second.nextVar = first.nextVar)
    (alike : ∀ mention ∈ known, mention.Agrees first second) : first.Agree known second := by
  refine ⟨⟨?_, fun name => alike (.element name), fun name => alike (.routine name)⟩, nextVar⟩
  simp only [SymbolTable.scopes]
  rw [List.eq_nil_of_length_eq_zero firstRoot, List.eq_nil_of_length_eq_zero secondRoot]
  exact .cons (fun name => alike (.variable name)) .nil

-- The log is the same as a whole: errors, types of expressions and defects.
theorem definition_sees_mentions (definition : Definition Node) (first second : SymbolTable)
    (firstRoot : first.depth = 0) (secondRoot : second.depth = 0)
    (nextVar : second.nextVar = first.nextVar)
    (alike : ∀ mention ∈ definition.mentions, mention.Agrees first second) :
    (definition.check second).log = (definition.check first).log ∧
      (definition.check second).value.nextVar = (definition.check first).value.nextVar ∧
      ∃ effect : Effect, (effect.on first).Keeps (definition.check first).value ∧
        (effect.on second).Keeps (definition.check second).value := by
  have agree := agree_at_root firstRoot secondRoot nextVar alike
  have inside := List.Subset.refl definition.mentions
  have checked : (definition.check first).Alike (first.SameEffect second)
      (definition.check second) := by
    cases definition with
    | element declaration => exact element_effect agree declaration inside
    | external declaration => exact external_effect agree firstRoot declaration inside
    | routine declaration => exact routine_effect agree declaration inside
    | constant declaration => exact constant_effect agree firstRoot declaration inside
    | test declaration => exact alike_pure (no_effect agree)
  exact ⟨checked.log, checked.value.nextVar, checked.value.effect⟩

def scaling : Definition Node :=
  let node (id : Nat) : Node := ⟨id, .origin⟩
  let name (id : Nat) (text : String) : Name Node := ⟨node id, text⟩
  let ident (id : Nat) (text : String) : Expr Node := .ident (name id text)
  .routine ⟨node 0, .function, name 1 "scale",
    [⟨node 2, name 3 "amount", false, .scalar (node 4) .int⟩],
    [⟨node 5, name 6 "result", .scalar (node 7) .int⟩],
    ⟨node 8, [.assign (node 9) [ident 10 "result"]
      (.binary (node 11) .mul (ident 12 "amount") (ident 13 "factor"))]⟩⟩

-- The second table also knows a variable and an element type, which the function does not mention.
theorem scaling_sees_factor :
    let first := SymbolTable.empty.bind "factor" (some .int) .readWrite
    let other : Symbol := ⟨⟨7, "other", some .float⟩, .read⟩
    let second := { first.insert other with elements := [⟨"Account", []⟩] }
    (∀ mention ∈ scaling.mentions, mention.Agrees first second) ∧
      (scaling.check first).log.entries.length = 4 ∧
      (scaling.check first).value.routines.length = 1 ∧
      (scaling.check second).log = (scaling.check first).log ∧
      (scaling.check second).value.nextVar = (scaling.check first).value.nextVar ∧
      ∃ effect : Effect, (effect.on first).Keeps (scaling.check first).value ∧
        (effect.on second).Keeps (scaling.check second).value := by
  intro first other second
  have alike : ∀ mention ∈ scaling.mentions, mention.Agrees first second := by
    have listed : scaling.mentions = [.routine "scale", .variable "amount", .variable "result",
        .variable "amount", .variable "factor", .variable "result"] := by decide +kernel
    rw [listed]
    simp only [List.forall_mem_cons]
    exact ⟨rfl, rfl, rfl, rfl, rfl, rfl, List.forall_mem_nil _⟩
  exact ⟨alike, by decide +kernel, by decide +kernel,
    definition_sees_mentions scaling first second rfl rfl rfl alike⟩

end TensorLang
