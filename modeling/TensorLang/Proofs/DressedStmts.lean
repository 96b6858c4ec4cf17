import TensorLang.Proofs.DressedExprs

set_option autoImplicit false

namespace TensorLang

open Logged

variable {first second : SymbolTable} {layout : List Wrapping}

section Annotations

variable (wraps : first.Wraps second)
include wraps

theorem resolve_element_same (name : Name Node) :
    name.resolveElement second = name.resolveElement first := by
  rw [name.resolve_element_promised, name.resolve_element_promised, wraps.element?]

theorem domain_same (domain : Domain Node) : domain.resolve second = domain.resolve first := by
  cases domain with
  | range node size => rfl
  | dynamic node => rfl
  | set name =>
      rw [Domain.resolve, Domain.resolve, Name.resolveIndexSet, Name.resolveIndexSet,
        resolve_set_same wraps]

-- Annotations have no parentheses and call no routines.
theorem annotation_same (written : TypeExpr Node) :
    written.resolve second = written.resolve first := by
  induction written with
  | scalar node component => rfl
  | element name => exact resolve_element_same wraps name
  | set node member endpoints =>
      have each : Name.resolveEndpoint second = Name.resolveEndpoint first :=
        funext fun name => resolve_set_same wraps _ name
      rw [TypeExpr.resolve, TypeExpr.resolve, resolve_element_same wraps, each]
  | tuple node member lengthNode length =>
      rw [TypeExpr.resolve, TypeExpr.resolve, resolve_element_same wraps]
  | tensor node domains inner column ih =>
      have each : Domain.resolve second = Domain.resolve first := funext (domain_same wraps)
      rw [TypeExpr.resolve, TypeExpr.resolve, ih, each]

end Annotations

theorem value_twins (wraps : first.Wraps second) {value? other? : Option (Expr Node)}
    (wrapped : WrapsValue layout value? other?) :
    (Expr.inferValue first value?).Twins Eq layout (Expr.inferValue second other?) := by
  cases wrapped with
  | none => exact twins_pure rfl
  | some inside => exact infer_twins wraps .read _ inside

theorem declaration_twins (wraps : first.Wraps second) (constancy : Constancy)
    {declaration other : Declaration Node} (wrapped : declaration.Wraps layout other) :
    (declaration.check first constancy).Twins SymbolTable.Wraps layout
      (other.check second constancy) := by
  cases wrapped with
  | initial node name type inside =>
      simp only [Declaration.check]
      rw [annotation_same wraps]
      refine twins_after (Log.View.entries.part_annotated first type) fun declared? => ?_
      refine twins_then (value_twins wraps inside) fun found? copy? same => ?_
      rw [same, first.binds_typed_promised, second.binds_typed_promised, wraps.local?, pure_bind,
        pure_bind]
      by_cases bound : (first.local? name.text).any (·.var.type?.isSome) = true
      · rw [if_pos bound, if_pos bound]
        exact twins_after rfl fun _ => twins_pure wraps
      · rw [if_neg bound, if_neg bound]
        refine twins_after (Log.View.entries.part_check_value ..) fun _ => ?_
        exact twins_pure (wraps.bind name.text declared? constancy.access)

theorem enclosed_ident {expression : Expr Node} (compound : expression.ident? = none)
    (parens : List Nat) : (expression.enclosed parens).ident? = none := by
  simp only [Expr.enclosed]
  induction parens generalizing expression with
  | nil => exact compound
  | cons id rest ih => exact ih rfl

theorem target_ident {target other : Expr Node} (wrapped : target.WrapsTarget layout other) :
    other.ident? = target.ident? := by
  cases wrapped with
  | bare name => rfl
  | compound compound inside =>
      obtain ⟨parts, parens⟩ := inside
      rw [compound]
      apply enclosed_ident
      cases parts with
      | ident name => exact (nomatch compound)
      | _ => rfl

theorem target_wraps {target other : Expr Node} (wrapped : target.WrapsTarget layout other) :
    Expr.Wraps layout target other := by
  cases wrapped with
  | bare name => exact .around (.ident name) []
  | compound compound inside => exact inside

theorem check_target_twins (wraps : first.Wraps second) {target other : Expr Node}
    (wrapped : target.WrapsTarget layout other) :
    (target.checkTarget first).Twins Eq layout (other.checkTarget second) := by
  have inside := target_wraps wrapped
  simp only [Expr.checkTarget, Expr.targetMode]
  rw [target_ident wrapped]
  refine twins_then (infer_twins wraps _ target inside) fun types copy same => ?_
  rw [same, Expr.wraps_span inside]
  exact twins_pure rfl

-- The targets of an assignment, each with the type that it gets if it is new.
def SameTargets : List (Expr Node × Option Ty) → List (Expr Node × Option Ty) → Prop :=
  List.Forall₂ fun target other => other.1.ident? = target.1.ident? ∧ other.2 = target.2

theorem same_targets {targets others : List (Expr Node)}
    (paired : Paired Expr.WrapsTarget layout targets others) (types : List (Option Ty)) :
    SameTargets (targets.zip types) (others.zip types) := by
  induction paired generalizing types with
  | nil => exact .nil
  | cons head _ ih =>
      cases types with
      | nil => exact .nil
      | cons type? rest => exact .cons ⟨target_ident head, rfl⟩ (ih rest)

theorem target_types_same {targets others : List (Expr Node)}
    (counts : others.length = targets.length) (values? : Outcome) (errors : List TypeError) :
    targetTypes others values? errors = targetTypes targets values? errors := by
  have absent : (others.map fun _ => none) = targets.map fun _ => (none : Option Ty) := by
    rw [List.map_const', List.map_const', counts]
  simp only [targetTypes]
  rw [absent]

theorem check_targets_twins (wraps : first.Wraps second) (span : Span)
    {early late : List Wrapping} {targets others : List (Expr Node)} {value otherValue : Expr Node}
    (onValue : Expr.Wraps early value otherValue)
    (each : Paired Expr.WrapsTarget late targets others) :
    (checkTargets first span targets value).Twins SameTargets (early ++ late)
      (checkTargets second span others otherValue) := by
  have checked := (twins_mapM each fun _ _ _ => check_target_twins wraps).weaken
    fun _ _ => forall₂_eq
  refine twins_bind (infer_twins wraps .read value onValue) fun values? copy? sameValues => ?_
  refine twins_then checked fun known copies sameTargets => ?_
  rw [sameValues, sameTargets]
  refine twins_after rfl fun _ => ?_
  rw [target_types_same (paired_length each)]
  exact twins_pure (same_targets each _)

theorem declare_targets_wrap (wraps : first.Wraps second)
    {targets others : List (Expr Node × Option Ty)} (same : SameTargets targets others) :
    (first.declareTargets targets).Wraps (second.declareTargets others) := by
  simp only [SymbolTable.declareTargets]
  induction same generalizing first second with
  | nil => exact wraps
  | @cons target other _ _ head _ ih =>
      refine ih ?_
      obtain ⟨named, typed⟩ := head
      dsimp only
      simp only [SymbolTable.declareTarget]
      rw [named, typed]
      cases target.1.ident? with
      | none => exact wraps
      | some name =>
          dsimp only
          rw [wraps.symbol?]
          cases first.symbol? name.text with
          | some symbol => exact wraps
          | none => exact wraps.bind name.text target.2 .readWrite

theorem assignment_twins (wraps : first.Wraps second) (span : Span) {early late : List Wrapping}
    {targets others : List (Expr Node)} {value otherValue : Expr Node}
    (onValue : Expr.Wraps early value otherValue)
    (each : Paired Expr.WrapsTarget late targets others) :
    (checkAssignment first span targets value).Twins SymbolTable.Wraps (early ++ late)
      (checkAssignment second span others otherValue) :=
  twins_then (check_targets_twins wraps span onValue each) fun _ _ same =>
    twins_pure (declare_targets_wrap wraps same)

theorem conditional_twins {early : List Wrapping} {condition other : Expr Node}
    (wraps : first.Wraps second) (onCondition : Expr.Wraps early condition other)
    {block copy : Logged SymbolTable} (body : block.Twins SymbolTable.Wraps layout copy) :
    (do
      let types ← condition.infer first .read
      let table ← block
      Operand.expectCondition ⟨condition.span, types⟩
      return table.pop : Logged SymbolTable).Twins SymbolTable.Wraps (early ++ layout)
    (do
      let types ← other.infer second .read
      let table ← copy
      Operand.expectCondition ⟨other.span, types⟩
      return table.pop : Logged SymbolTable) := by
  refine twins_bind (infer_twins wraps .read condition onCondition) fun types others same => ?_
  refine twins_then body fun after copied inner => ?_
  rw [same, Expr.wraps_span onCondition]
  exact twins_after (Log.View.entries.part_expect ..) fun _ => twins_pure inner.pop

theorem bounds_twins (wraps : first.Wraps second) {early late : List Wrapping}
    {lower otherLower upper otherUpper : Expr Node} (onLower : Expr.Wraps early lower otherLower)
    (onUpper : Expr.Wraps late upper otherUpper) :
    (checkBounds first lower upper).Twins (fun _ _ => True) (early ++ late)
      (checkBounds second otherLower otherUpper) := by
  refine twins_bind (infer_twins wraps .read lower onLower) fun below belowCopy same => ?_
  refine twins_then (infer_twins wraps .read upper onUpper) fun above aboveCopy also => ?_
  rw [same, also, Expr.wraps_span onLower, Expr.wraps_span onUpper]
  refine twins_after (Log.View.entries.part_expect ..) fun _ => ?_
  exact twins_self trivial (Log.View.entries.part_expect ..) []

theorem counter_wraps (wraps : first.Wraps second) (counter : Name Node) :
    (first.push.bindCounter counter).Wraps (second.push.bindCounter counter) :=
  wraps.push.bind counter.text (some .int) .read

mutual
theorem stmt_twins {first second : SymbolTable} (wraps : first.Wraps second)
    (statement : Stmt Node) {layout : List Wrapping} {other : Stmt Node}
    (wrapped : statement.Wraps layout other) :
    (statement.check first).Twins SymbolTable.Wraps layout (other.check second) := by
  cases statement with
  | «variable» declaration =>
      cases wrapped with
      | «variable» inside => exact declaration_twins wraps .variable inside
  | constant declaration =>
      cases wrapped with
      | constant inside => exact declaration_twins wraps .constant inside
  | loop node condition body =>
      cases wrapped with
      | loop _ onCondition onBody =>
          rw [Stmt.check, Stmt.check]
          exact conditional_twins wraps onCondition (block_twins wraps.push body onBody)
  | branch node condition thenBlock elseBlock =>
      cases wrapped with
      | branch _ onCondition onThen =>
          rw [Stmt.check, Stmt.check]
          exact conditional_twins wraps onCondition (block_twins wraps.push thenBlock onThen)
      | @branchElse _ _ _ _ _ _ _ _ elseBlock _ onCondition onThen onElse =>
          have both := twins_bind (block_twins wraps.push thenBlock onThen) fun _ _ inner =>
            block_twins inner.pop.push elseBlock onElse
          have whole := conditional_twins wraps onCondition both
          simp only [bind_assoc] at whole
          rw [Stmt.check, Stmt.check]
          exact whole
  | forRange node counter domain lower upper body =>
      cases wrapped with
      | forRange _ _ _ onLower onUpper onBody =>
          rw [Stmt.check, Stmt.check]
          refine twins_bind (bounds_twins wraps.push onLower onUpper) fun _ _ _ => ?_
          refine twins_then (block_twins (counter_wraps wraps counter) body onBody) ?_
          exact fun _ _ inner => twins_pure inner.pop
  | forSet node counter domain set body =>
      cases wrapped with
      | forSet _ _ _ _ onBody =>
          rw [Stmt.check, Stmt.check, Name.resolveIndexSet, Name.resolveIndexSet,
            resolve_set_same wraps.push]
          refine twins_after (Log.View.entries.part_resolve_set ..) fun _ => ?_
          refine twins_then (block_twins (counter_wraps wraps counter) body onBody) ?_
          exact fun _ _ inner => twins_pure inner.pop
  | print node value =>
      cases wrapped with
      | print _ inside =>
          rw [Stmt.check, Stmt.check, checkPrint, checkPrint]
          simp only [bind_assoc]
          refine twins_then (infer_twins wraps .read value inside) fun types copy same => ?_
          rw [same, Expr.wraps_span inside]
          exact twins_after (Log.View.entries.part_expect ..) fun _ => twins_pure wraps
  | assign node targets value =>
      cases wrapped with
      | assign _ onValue each =>
          rw [Stmt.check, Stmt.check]
          exact assignment_twins wraps node.span onValue each
  | eval node value =>
      cases wrapped with
      | eval _ inside =>
          rw [Stmt.check, Stmt.check]
          exact twins_then (infer_twins wraps .read value inside) fun _ _ _ => twins_pure wraps
theorem block_twins {first second : SymbolTable} (wraps : first.Wraps second)
    (block : Block Node) {layout : List Wrapping} {other : Block Node}
    (wrapped : block.Wraps layout other) :
    (block.check first).Twins SymbolTable.Wraps layout (other.check second) := by
  obtain ⟨node, statements⟩ := block
  cases wrapped with
  | statements _ each =>
      rw [Block.check, Block.check]
      exact stmts_twins wraps statements each
theorem stmts_twins {first second : SymbolTable} (wraps : first.Wraps second)
    (statements : List (Stmt Node)) {layout : List Wrapping} {others : List (Stmt Node)}
    (each : Paired Stmt.Wraps layout statements others) :
    (checkStmts first statements).Twins SymbolTable.Wraps layout (checkStmts second others) := by
  cases statements with
  | nil =>
      cases each
      exact twins_pure wraps
  | cons statement rest =>
      cases each with
      | cons head tail =>
          rw [checkStmts, checkStmts]
          refine twins_bind (stmt_twins wraps statement head) fun _ _ after => ?_
          exact stmts_twins after rest tail
end

theorem fields_same (wraps : first.Wraps second) (declared : List String)
    (fields : List (FieldDecl Node)) :
    checkFields second declared fields = checkFields first declared fields := by
  induction fields generalizing declared with
  | nil => rfl
  | cons field rest ih =>
      rw [checkFields, checkFields, annotation_same wraps]
      simp only [ih]

theorem element_twins (wraps : first.Wraps second) (declaration : ElementDecl Node) :
    (declaration.check first).Twins SymbolTable.Wraps [] (declaration.check second) := by
  simp only [ElementDecl.check]
  rw [fields_same wraps, wraps.element?]
  refine twins_after (Log.View.entries.part_check_fields ..) fun fields => ?_
  cases free : first.element? declaration.name.text with
  | some record => exact twins_after rfl fun _ => twins_pure wraps
  | none =>
      have otherFree := (wraps.element? declaration.name.text).trans free
      dsimp only
      rw [SymbolTable.add_element_free _ free, SymbolTable.add_element_free _ otherFree,
        SymbolTable.registering_ok, SymbolTable.registering_ok]
      obtain ⟨routines, rfl, related⟩ := wraps
      exact twins_pure ⟨routines, rfl, related⟩

theorem external_twins (wraps : first.Wraps second) (declaration : ExternalDecl Node) :
    (declaration.check first).Twins SymbolTable.Wraps [] (declaration.check second) := by
  simp only [ExternalDecl.check]
  rw [annotation_same wraps, wraps.symbol?]
  refine twins_after (Log.View.entries.part_annotated ..) fun type? => ?_
  cases first.symbol? declaration.name.text with
  | some symbol => exact twins_after rfl fun _ => twins_pure wraps
  | none => exact twins_pure (wraps.bind ..)

theorem slots_twins (wraps : first.Wraps second) (slots : List Slot) :
    (bindSlots first slots).Twins
      (fun bound copy => bound.1.Wraps copy.1 ∧ copy.2 = bound.2) [] (bindSlots second slots) := by
  induction slots generalizing first second with
  | nil => exact twins_pure ⟨wraps, rfl⟩
  | cons slot rest ih =>
      rw [bindSlots, bindSlots, annotation_same wraps]
      refine twins_after (Log.View.entries.part_annotated ..) fun type? => ?_
      cases type? with
      | none =>
          refine twins_then (ih wraps) fun bound copy same => ?_
          exact twins_pure ⟨same.1, congrArg (none :: ·) same.2⟩
      | some type =>
          have fresh : second.fresh slot.name (some type) = first.fresh slot.name (some type) := by
            obtain ⟨routines, rfl, related⟩ := wraps
            rfl
          have later := ih (wraps.bind slot.name (some type) slot.access)
          refine twins_then later fun bound copy same => ?_
          rw [fresh]
          exact twins_pure ⟨same.1, congrArg (some _ :: ·) same.2⟩

theorem register_twins (wraps : first.Wraps second) (node : Node) (word : RoutineWord)
    (name : Name Node) (parameterDecls : List (ParameterDecl Node))
    (resultDecls : List (ResultDecl Node)) {body other : Block Node}
    (inside : body.Wraps layout other) (parameters results : List (Option Var)) :
    (RoutineDecl.register first ⟨node, word, name, parameterDecls, resultDecls, body⟩ parameters
      results).Twins SymbolTable.Wraps []
    (RoutineDecl.register second ⟨node, word, name, parameterDecls, resultDecls, other⟩ parameters
      results) := by
  unfold RoutineDecl.register
  dsimp only
  cases allPresent parameters with
  | none => exact twins_pure wraps
  | some parameters =>
      cases allPresent results with
      | none => exact twins_pure wraps
      | some results =>
          dsimp only
          obtain ⟨routines, rfl, related⟩ := wraps
          simp only [SymbolTable.routine?]
          have both := rel_cases (routine_found related name.text)
          rcases both with ⟨free, otherFree⟩ | ⟨_, _, found, copied, _⟩
          · let routine : Routine := ⟨name.text, parameters, results, .declared body⟩
            let copy : Routine := ⟨name.text, parameters, results, .declared other⟩
            have freeFirst : first.routine? routine.name = none := free
            have freeSecond : { first with routines := routines }.routine? copy.name = none :=
              otherFree
            rw [free, otherFree]
            dsimp only
            rw [SymbolTable.add_routine_free routine freeFirst,
              SymbolTable.add_routine_free copy freeSecond, SymbolTable.registering_ok,
              SymbolTable.registering_ok]
            have added := Routine.Wraps.declared name.text parameters results inside
            exact twins_pure ⟨_, rfl, List.rel_append related (.cons added .nil)⟩
          · rw [found, copied]
            exact twins_after rfl fun _ => twins_pure ⟨routines, rfl, related⟩

theorem routine_twins (wraps : first.Wraps second) (node : Node) (word : RoutineWord)
    (name : Name Node) (parameterDecls : List (ParameterDecl Node))
    (resultDecls : List (ResultDecl Node)) {body other : Block Node}
    (inside : body.Wraps layout other) :
    (RoutineDecl.check first ⟨node, word, name, parameterDecls, resultDecls, body⟩).Twins
      SymbolTable.Wraps layout
      (RoutineDecl.check second ⟨node, word, name, parameterDecls, resultDecls, other⟩) := by
  rw [RoutineDecl.check, RoutineDecl.check, ← List.nil_append layout]
  dsimp only
  refine twins_bind (slots_twins wraps.push _) fun parameters others head => ?_
  rw [← List.nil_append layout]
  refine twins_bind (slots_twins head.1 _) fun results copies tail => ?_
  refine twins_then (block_twins tail.1 body inside) fun inner copied left => ?_
  rw [head.2, tail.2]
  exact register_twins left.pop node word name parameterDecls resultDecls inside _ _

theorem definition_twins (wraps : first.Wraps second) {definition other : Definition Node}
    (wrapped : definition.Wraps layout other) :
    (definition.check first).Twins SymbolTable.Wraps layout (other.check second) := by
  cases wrapped with
  | element declaration => exact element_twins wraps declaration
  | external declaration => exact external_twins wraps declaration
  | routine node word name parameters results inside =>
      exact routine_twins wraps node word name parameters results inside
  | constant inside => exact declaration_twins wraps .constant inside
  | test node routine each onExpected => exact ⟨wraps, rfl, rfl, .unrecorded _⟩

theorem definitions_twins (wraps : first.Wraps second)
    {definitions others : List (Definition Node)}
    (each : Paired Definition.Wraps layout definitions others) :
    (checkDefinitions first definitions).Twins SymbolTable.Wraps layout
      (checkDefinitions second others) := by
  induction each generalizing first second with
  | nil => exact twins_pure wraps
  | cons head _ ih =>
      rw [checkDefinitions, checkDefinitions]
      exact twins_bind (definition_twins wraps head) fun _ _ after => ih after

end TensorLang
