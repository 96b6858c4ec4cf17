import TensorLang.Proofs.BuiltTrees
import TensorLang.Tree.Numbering

set_option autoImplicit false

namespace TensorLang

variable {α β : Type} {used : Multiset Item} {made : α → Multiset Item}
  {further : β → Multiset Item}

-- Takes some items from the bench, and puts there what comes of them.
def Turns (used : Multiset Item) (method : Numbering α) (made : α → Multiset Item) : Prop :=
  ∀ cursor rest,
    Bench.Reaches ⟨cursor, used + rest⟩ ⟨(method cursor).2, made (method cursor).1 + rest⟩

theorem turns_pure (value : α) (same : used = made value := by rfl) :
    Turns used (pure value) made := by
  subst same
  exact fun _ _ => .refl

theorem turns_bind {method : Numbering α} {next : α → Numbering β}
    (first : Turns used method made) (onwards : ∀ value, Turns (made value) (next value) further) :
    Turns used (method >>= next) further :=
  fun cursor rest => (first cursor rest).trans (onwards _ _ rest)

theorem turns_beside {method : Numbering α} (turns : Turns 0 method made)
    (others : Multiset Item) : Turns others method (others + made ·) := by
  intro cursor rest
  have run := turns cursor (others + rest)
  rwa [zero_add, ← add_assoc, add_comm (made _)] at run

theorem turns_move {next : Numbering β} (place : Place) (turns : Turns used next further) :
    Turns used (do place.moveCursor; next) further :=
  fun cursor rest => .head (.move ⟨cursor, used + rest⟩ place) (turns _ rest)

theorem turns_call (call : Call) {method : Numbering α} {item : α → Item}
    (runs : call.run = item <$> method) :
    Turns call.arguments method fun value => {item value} := by
  intro cursor rest
  have step := Bench.Step.call cursor call rest
  rw [Bench.after, runs] at step
  exact .single step

theorem turns_nil (item : α → Item) :
    Turns 0 (pure []) fun values => (values.map item : List Item) :=
  turns_pure []

theorem turns_cons {first : Numbering α} {rest : Numbering (List α)} {item : α → Item}
    (head : Turns 0 first fun value => {item value})
    (tail : Turns 0 rest fun values => (values.map item : List Item)) :
    Turns 0 (do return (← first) :: (← rest)) fun values => (values.map item : List Item) :=
  turns_bind head fun value => turns_bind (turns_beside tail _) fun values =>
    turns_pure (value :: values)

theorem turns_return {first : Numbering α} {wrap : α → β} {item : β → Item}
    (turns : Turns used first fun value => {item (wrap value)}) :
    Turns used (do return wrap (← first)) fun value => {item value} :=
  turns_bind turns fun value => turns_pure (wrap value)

mutual
theorem dense_turns (draft : Dense Place) :
    Turns 0 draft.number fun literal => {.dense literal} := by
  cases draft with
  | ints place values transposed =>
      exact turns_move place (turns_call (.ints values transposed) rfl)
  | floats place values transposed =>
      exact turns_move place (turns_call (.floats values transposed) rfl)
  | nested place rows transposed =>
      exact turns_bind (rows_turns rows) fun rows =>
        turns_move place (turns_call (.nested rows transposed) rfl)
theorem rows_turns (drafts : List (Dense Place)) :
    Turns 0 (numberRows drafts) fun rows => (rows.map .dense : List Item) := by
  cases drafts with
  | nil => exact turns_nil .dense
  | cons draft drafts => exact turns_cons (dense_turns draft) (rows_turns drafts)
end

mutual
theorem expr_turns (draft : Expr Place) :
    Turns 0 draft.number fun expression => {.expr expression} := by
  cases draft with
  | binary place operator left right =>
      exact turns_bind (expr_turns left) fun left =>
        turns_bind (turns_beside (expr_turns right) _) fun right =>
          turns_move place (turns_call (.binary operator left right) rfl)
  | compare place operands operators =>
      exact turns_bind (exprs_turns operands) fun operands =>
        turns_move place (turns_call (.compare operands operators) rfl)
  | unary place operator operand =>
      exact turns_bind (expr_turns operand) fun operand =>
        turns_move place (turns_call (.unary operator operand) rfl)
  | transpose place operand =>
      exact turns_bind (expr_turns operand) fun operand =>
        turns_move place (turns_call (.transpose operand) rfl)
  | call place routine arguments =>
      exact turns_bind (exprs_turns arguments) fun arguments =>
        turns_move place (turns_call (.call routine arguments) rfl)
  | map place routine partials target =>
      exact turns_bind (exprs_turns partials) fun partials =>
        turns_move place (turns_call (.map routine partials target) rfl)
  | read place base indices =>
      exact turns_bind (expr_turns base) fun base =>
        turns_bind (turns_beside (indices_turns indices) _) fun indices =>
          turns_move place (turns_call (.read base indices) rfl)
  | field place base name =>
      exact turns_bind (expr_turns base) fun base =>
        turns_move place (turns_call (.field base name) rfl)
  | paren place inner =>
      exact turns_bind (expr_turns inner) fun inner =>
        turns_move place (turns_call (.paren inner) rfl)
  | int place value => exact turns_move place (turns_call (.int value) rfl)
  | float place value => exact turns_move place (turns_call (.float value) rfl)
  | bool place value => exact turns_move place (turns_call (.bool value) rfl)
  | dense literal =>
      exact turns_bind (dense_turns literal) fun literal => turns_call (.dense literal) rfl
  | ident name => exact turns_move name.node (turns_call (.ident name.text) rfl)
theorem exprs_turns (drafts : List (Expr Place)) :
    Turns 0 (numberExprs drafts) fun expressions => (expressions.map .expr : List Item) := by
  cases drafts with
  | nil => exact turns_nil .expr
  | cons draft drafts => exact turns_cons (expr_turns draft) (exprs_turns drafts)
theorem index_turns (draft : Index Place) :
    Turns 0 draft.number fun index => {.index index} := by
  cases draft with
  | slice place => exact turns_move place (turns_call .slice rfl)
  | «at» expression =>
      exact turns_bind (expr_turns expression) fun expression =>
        turns_call (.index expression) rfl
theorem indices_turns (drafts : List (Index Place)) :
    Turns 0 (numberIndices drafts) fun indices => (indices.map .index : List Item) := by
  cases drafts with
  | nil => exact turns_nil .index
  | cons draft drafts => exact turns_cons (index_turns draft) (indices_turns drafts)
end

theorem domain_turns (draft : Domain Place) :
    Turns 0 draft.number fun domain => {.domain domain} := by
  cases draft with
  | range place size => exact turns_move place (turns_call (.range size) rfl)
  | set name => exact turns_move name.node (turns_call (.setDomain name.text) rfl)
  | dynamic place => exact turns_move place (turns_call .dynamic rfl)

theorem domains_turns (drafts : List (Domain Place)) :
    Turns 0 (numberDomains drafts) fun domains => (domains.map .domain : List Item) := by
  induction drafts with
  | nil => exact turns_nil .domain
  | cons draft drafts held => exact turns_cons (domain_turns draft) held

theorem type_turns (draft : TypeExpr Place) : Turns 0 draft.number fun type => {.type type} := by
  induction draft with
  | scalar place component => exact turns_move place (turns_call (.scalar component) rfl)
  | tensor place domains block column held =>
      exact turns_bind (domains_turns domains) fun domains =>
        turns_bind (turns_beside held _) fun block =>
          turns_move place (turns_call (.tensor domains block column) rfl)
  | element name => exact turns_move name.node (turns_call (.elementType name.text) rfl)
  | set place member endpoints =>
      exact turns_move place (turns_call (.set member endpoints) rfl)
  | tuple place member lengthPlace length =>
      exact turns_move place (turns_call (.tuple member lengthPlace length) rfl)

theorem value_turns (draft : Option (Expr Place)) :
    Turns 0 (Declaration.numberValue draft) fun value => (valueItems value : List Item) := by
  cases draft with
  | none => exact turns_pure none
  | some draft => exact turns_bind (expr_turns draft) fun value => turns_pure (some value)

-- One call takes a declaration as a statement, and another one as a definition.
theorem declaration_turns (draft : Declaration Place) {item : Declaration Node → Item}
    (call : Name Place → TypeExpr Node → Option (Expr Node) → Call)
    (takes : ∀ name type value, (call name type value).arguments = .type type :: valueItems value)
    (runs : ∀ name type value,
      (call name type value).run = item <$> Builder.declaration name type value) :
    Turns 0 draft.number fun declaration => {item declaration} := by
  refine turns_bind (type_turns draft.type) fun type =>
    turns_bind (turns_beside (value_turns draft.value) _) fun value =>
      turns_move draft.node ?_
  have called := turns_call (call draft.name type value) (runs draft.name type value)
  rwa [takes] at called

mutual
theorem stmt_turns (draft : Stmt Place) :
    Turns 0 draft.number fun statement => {.stmt statement} := by
  match draft with
  | .variable declaration =>
      exact turns_return (declaration_turns declaration .variable (fun _ _ _ => rfl)
        fun _ _ _ => rfl)
  | .constant declaration =>
      exact turns_return (declaration_turns declaration .constant (fun _ _ _ => rfl)
        fun _ _ _ => rfl)
  | .loop place condition ⟨bodyPlace, body⟩ =>
      exact turns_bind (expr_turns condition) fun condition =>
        turns_bind (turns_beside (stmts_turns body) _) fun body =>
          turns_move place (turns_call (.loop condition bodyPlace body) rfl)
  | .branch place condition ⟨thenPlace, thenBody⟩ none =>
      refine turns_bind (expr_turns condition) fun condition =>
        turns_bind (turns_beside (stmts_turns thenBody) _) fun thenBody => turns_move place ?_
      have called := turns_call (.branch condition thenPlace thenBody none) rfl
      rwa [Call.arguments, elseItems, Option.elim_none, List.append_nil] at called
  | .branch place condition ⟨thenPlace, thenBody⟩ (some ⟨elsePlace, elseBody⟩) =>
      exact turns_bind (expr_turns condition) fun condition =>
        turns_bind (turns_beside (stmts_turns thenBody) _) fun thenBody =>
          turns_bind (turns_beside (stmts_turns elseBody) _) fun elseBody =>
            turns_move place
              (turns_call (.branch condition thenPlace thenBody (some (elsePlace, elseBody))) rfl)
  | .forRange place counter domainPlace lower upper ⟨bodyPlace, body⟩ =>
      exact turns_bind (expr_turns lower) fun lower =>
        turns_bind (turns_beside (expr_turns upper) _) fun upper =>
          turns_bind (turns_beside (stmts_turns body) _) fun body =>
            turns_move place
              (turns_call (.forRange counter domainPlace lower upper bodyPlace body) rfl)
  | .forSet place counter domainPlace set ⟨bodyPlace, body⟩ =>
      exact turns_bind (stmts_turns body) fun body =>
        turns_move place (turns_call (.forSet counter domainPlace set bodyPlace body) rfl)
  | .print place value =>
      exact turns_bind (expr_turns value) fun value =>
        turns_move place (turns_call (.print value) rfl)
  | .assign place targets value =>
      exact turns_bind (exprs_turns targets) fun targets =>
        turns_bind (turns_beside (expr_turns value) _) fun value =>
          turns_move place (turns_call (.assign targets value) rfl)
  | .eval place value =>
      exact turns_bind (expr_turns value) fun value =>
        turns_move place (turns_call (.eval value) rfl)
theorem stmts_turns (drafts : List (Stmt Place)) :
    Turns 0 (numberStmts drafts) fun statements => (statements.map .stmt : List Item) := by
  cases drafts with
  | nil => exact turns_nil .stmt
  | cons draft drafts => exact turns_cons (stmt_turns draft) (stmts_turns drafts)
end

theorem fields_turns (drafts : List (FieldDecl Place)) :
    Turns 0 (ElementDecl.numberFields drafts) fun fields =>
      (fields.map fun field => .type field.type : List Item) := by
  induction drafts with
  | nil => exact turns_pure []
  | cons draft drafts held =>
      exact turns_bind (type_turns draft.type) fun type =>
        turns_bind (turns_beside held _) fun fields =>
          turns_pure (⟨draft.node, draft.name, type⟩ :: fields)

theorem parameters_turns (drafts : List (ParameterDecl Place)) :
    Turns 0 (RoutineDecl.numberParameters drafts) fun parameters =>
      (parameters.map .parameter : List Item) := by
  induction drafts with
  | nil => exact turns_nil .parameter
  | cons draft drafts held =>
      exact turns_bind (type_turns draft.type) fun type =>
        turns_move draft.node <|
          turns_bind (turns_call (.parameter draft.name draft.inout type) rfl) fun parameter =>
            turns_bind (turns_beside held _) fun parameters =>
              turns_pure (parameter :: parameters)

theorem results_turns (drafts : List (ResultDecl Place)) :
    Turns 0 (RoutineDecl.numberResults drafts) fun results =>
      (results.map .result : List Item) := by
  induction drafts with
  | nil => exact turns_nil .result
  | cons draft drafts held =>
      exact turns_bind (type_turns draft.type) fun type =>
        turns_move draft.node <|
          turns_bind (turns_call (.result draft.name type) rfl) fun result =>
            turns_bind (turns_beside held _) fun results => turns_pure (result :: results)

theorem definition_turns (draft : Definition Place) :
    Turns 0 draft.number fun definition => {.definition definition} := by
  cases draft with
  | element declaration =>
      exact turns_return <|
        turns_bind (fields_turns declaration.fields) fun fields =>
          turns_move declaration.node (turns_call (.element declaration.name fields) rfl)
  | external declaration =>
      exact turns_return <|
        turns_bind (type_turns declaration.type) fun type =>
          turns_move declaration.node (turns_call (.external declaration.name type) rfl)
  | routine declaration =>
      exact turns_return <|
        turns_bind (parameters_turns declaration.parameters) fun parameters =>
          turns_bind (turns_beside (results_turns declaration.results) _) fun results =>
            turns_bind (turns_beside (stmts_turns declaration.body.statements) _) fun body =>
              turns_move declaration.node (turns_call (.routine declaration.word declaration.name
                parameters results declaration.body.node body) rfl)
  | constant declaration =>
      exact turns_return (declaration_turns declaration .globalConstant (fun _ _ _ => rfl)
        fun _ _ _ => rfl)
  | test declaration =>
      exact turns_return <|
        turns_bind (exprs_turns declaration.arguments) fun arguments =>
          turns_bind (turns_beside (expr_turns declaration.expected) _) fun expected =>
            turns_move declaration.node
              (turns_call (.test declaration.routine arguments expected) rfl)

theorem definitions_turns (drafts : List (Definition Place)) :
    Turns 0 (numberDefinitions drafts) fun definitions =>
      (definitions.map .definition : List Item) := by
  induction drafts with
  | nil => exact turns_nil .definition
  | cons draft drafts held => exact turns_cons (definition_turns draft) held

def Program.built (first : Nat) (draft : Program Place) : Bench :=
  ⟨(draft.number ⟨first, .origin⟩).2, {.program (draft.numbered first)}⟩

theorem last_call (first : Nat) (draft : Program Place) : ∃ cursor,
    let call := Call.sourceFile (draft.numbered first).definitions
    (Bench.start first .origin).Reaches ⟨cursor, call.arguments + 0⟩ ∧
      Bench.after cursor call 0 = draft.built first :=
  ⟨_, (definitions_turns draft.definitions ⟨first, .origin⟩ 0).tail (.move _ draft.node), rfl⟩

theorem numbered_built (first : Nat) (draft : Program Place) :
    (Bench.start first .origin).Reaches (draft.built first) := by
  obtain ⟨cursor, before, last⟩ := last_call first draft
  exact last ▸ before.tail (.call cursor _ 0)

theorem numbered_distinctIds (first : Nat) (draft : Program Place)
    (fits : first + (draft.built first).ids.card ≤ UInt32.size) :
    (draft.numbered first).DistinctIds :=
  (Bench.program_consecutive
    (Bench.accounts_run (numbered_built first draft) (Bench.accounts_start first .origin)) fits
    rfl).2.1

/--
However a tree is built, its nodes have the identities from the first one on, without a gap and
without a repetition. Every call on the way puts its node above its arguments, below the nodes that
come after it, and next to those that come before it.
-/
theorem built_ids (first : Nat) (span : Span) (bench : Bench)
    (built : (Bench.start first span).Reaches bench)
    (fits : first + bench.ids.card ≤ UInt32.size) :
    bench.ids = (List.range' first bench.ids.card : Multiset Nat) ∧
    (∀ program, bench.items = {.program program} →
      let ids := program.expressionIds ++ program.partIds
      ids.length = bench.ids.card ∧ ids.Nodup ∧ ids.Perm (List.range' first ids.length)) ∧
    ∀ (cursor : Cursor) (call : Call) (rest : Multiset Item),
      (Bench.start first span).Reaches ⟨cursor, call.arguments + rest⟩ →
      (Bench.after cursor call rest).Reaches bench → call.Orderly cursor := by
  have accounts := Bench.accounts_run built (Bench.accounts_start first span)
  obtain ⟨reached, consecutive⟩ := Bench.ids_consecutive accounts fits
  refine ⟨consecutive, fun program alone => Bench.program_consecutive accounts fits alone,
    fun cursor call rest before onwards => ?_⟩
  have remaining : (Bench.after cursor call rest).cursor.next ≤ UInt32.size :=
    (Bench.next_le onwards).trans (reached ▸ fits)
  exact Bench.call_orderly (Bench.accounts_run before (Bench.accounts_start first span)) remaining

def survey : Program Place :=
  let name (text : String) : Name Place := ⟨none, text⟩
  ⟨none,
    [.element ⟨none, name "Site", [⟨none, name "depth", .scalar none .float⟩]⟩,
      .external ⟨none, name "sites", .set none (name "Site") []⟩,
      .routine ⟨none, .function, name "measure", [], [⟨none, name "total", .scalar none .int⟩],
        ⟨none, [.forSet none (name "site") none (name "sites")
          ⟨none, [.assign none [.ident (name "total")]
            (.read none (.dense (.ints none [2, 3] false)) [.at (.int none 0)])]⟩]⟩⟩]⟩

theorem survey_ids :
    let program := survey.numbered 7
    let ids := program.expressionIds ++ program.partIds
    7 + ids.length ≤ UInt32.size ∧ ids.Nodup ∧ ids.Perm (List.range' 7 26) ∧
      ∃ cursor, (Call.sourceFile program.definitions).Orderly cursor := by
  intro program ids
  have listed : (survey.built 7).ids = (ids : Multiset Nat) := Bench.ids_program rfl
  have size : ids.length = 26 := by decide +kernel
  have fits : 7 + (survey.built 7).ids.card ≤ UInt32.size := by
    rw [listed, Multiset.coe_card, size]
    decide
  obtain ⟨_, alone, orderly⟩ := built_ids 7 .origin (survey.built 7) (numbered_built 7 survey) fits
  obtain ⟨same, distinct, consecutive⟩ := alone program rfl
  rw [size] at consecutive
  obtain ⟨cursor, before, last⟩ := last_call 7 survey
  exact ⟨same ▸ fits, distinct, consecutive, cursor, orderly cursor _ 0 before (last ▸ .refl)⟩

end TensorLang
