import TensorLang.Proofs.CompleteExprs
import TensorLang.Proofs.SoundStmts

set_option autoImplicit false

namespace TensorLang

open Logged

-- A bare name that is assigned to while no live scope binds it.
def Expr.newTarget (table : SymbolTable) (target : Expr Node) : List Nat :=
  match target.ident? with
  | none => []
  | some name => if (table.symbol? name.text).isSome then [] else [name.node.id]

mutual
def Stmt.newTargets (table : SymbolTable) : Stmt Node → List Nat
  | .variable _ | .constant _ | .print .. | .eval .. => []
  | .loop _ _ body => body.newTargets table.push
  | .branch _ _ thenBlock none => thenBlock.newTargets table.push
  | .branch _ _ thenBlock (some elseBlock) =>
      thenBlock.newTargets table.push ++
        elseBlock.newTargets (thenBlock.check table.push).value.pop.push
  | .forRange _ counter _ _ _ body => body.newTargets (table.push.bindCounter counter)
  | .forSet _ counter _ _ body => body.newTargets (table.push.bindCounter counter)
  | .assign _ targets _ => targets.flatMap (Expr.newTarget table)
def Block.newTargets (table : SymbolTable) : Block Node → List Nat
  | ⟨_, statements⟩ => stmtNewTargets table statements
def stmtNewTargets (table : SymbolTable) : List (Stmt Node) → List Nat
  | [] => []
  | statement :: rest =>
      statement.newTargets table ++ stmtNewTargets (statement.check table).value rest
end

theorem perm_join {first second missing absent whole other : List Nat}
    (left : (first ++ missing).Perm whole) (right : (second ++ absent).Perm other) :
    ((first ++ second) ++ (missing ++ absent)).Perm (whole ++ other) := by
  refine List.perm_iff_count.mpr fun id => ?_
  have leftCount := left.count_eq id
  have rightCount := right.count_eq id
  simp only [List.count_append] at leftCount rightCount ⊢
  omega

-- What is recorded and what is missing make up the whole.
structure Logged.Covers (missing all : List Nat) (check : Logged SymbolTable) : Prop where
  settled : check.value.Settled
  ids : (check.log.ids ++ missing).Perm all

theorem covers_silent {check : Logged SymbolTable} {ids : List Nat}
    (settled : check.value.Settled) (recorded : check.log.ids = ids) : check.Covers [] ids := by
  refine ⟨settled, ?_⟩
  rw [List.append_nil, recorded]

theorem covers_after {α : Type} {first : Logged α} {next : α → Logged SymbolTable}
    {ids missing all : List Nat} (start : first.log.ids = ids)
    (rest : (next first.value).Covers missing all) :
    (first >>= next).Covers missing (ids ++ all) := by
  refine ⟨rest.settled, ?_⟩
  rw [log_bind, Log.ids_append, start, List.append_assoc]
  exact rest.ids.append_left ids

theorem covers_bind {first : Logged SymbolTable} {next : SymbolTable → Logged SymbolTable}
    {missing absent all others : List Nat} (start : first.Covers missing all)
    (rest : (next first.value).Covers absent others) :
    (first >>= next).Covers (missing ++ absent) (all ++ others) := by
  refine ⟨rest.settled, ?_⟩
  rw [log_bind, Log.ids_append]
  exact perm_join start.ids rest.ids

variable {table : SymbolTable}

theorem read_ids (valid : table.WellFormed ⊤) (settled : table.Settled) {expression : Expr Node}
    (clean : (expression.infer table .read).log.errors = []) :
    (expression.infer table .read).log.ids = expression.ids :=
  (infer_completes valid settled read_used expression clean).ids

theorem value_ids (valid : table.WellFormed ⊤) (settled : table.Settled)
    {value? : Option (Expr Node)} (clean : (Expr.inferValue table value?).log.errors = []) :
    (Expr.inferValue table value?).log.ids = valueIds value? := by
  cases value? with
  | none => rfl
  | some value => exact read_ids valid settled clean

theorem declaration_clean {constancy : Constancy} {declaration : Declaration Node}
    (clean : (declaration.check table constancy).log.errors = []) :
    (declaration.check table constancy).value =
      table.bind declaration.name.text (declaration.type.resolve table).value
        constancy.access := by
  obtain ⟨_, later⟩ := bind_clean.mp clean
  obtain ⟨_, later⟩ := bind_clean.mp later
  dsimp only at later
  rw [table.binds_typed_promised, pure_bind] at later
  rw [declaration_value]
  by_cases bound : (table.local? declaration.name.text).any (·.var.type?.isSome) = true
  · rw [if_pos bound] at later
    cases later
  · rw [if_neg bound]

theorem declaration_covers (valid : table.WellFormed ⊤) (settled : table.Settled)
    (constancy : Constancy) (declaration : Declaration Node)
    (clean : (declaration.check table constancy).log.errors = []) :
    (declaration.check table constancy).Covers [] (valueIds declaration.value) := by
  obtain ⟨written, later⟩ := bind_clean.mp clean
  obtain ⟨value, _⟩ := bind_clean.mp later
  refine covers_silent ?_ ?_
  · rw [declaration_clean clean]
    exact settled.bind _ _ (annotation_gives settled declaration.type written)
  · rw [declaration_ids]
    exact value_ids valid settled value

theorem ident_of_bare {target : Expr Node} {name : Name Node}
    (bare : target.ident? = some name) : target = .ident name := by
  cases target with
  | ident found => rw [Option.some.inj bare]
  | _ => exact (nomatch bare)

theorem target_ids (valid : table.WellFormed ⊤) (settled : table.Settled) (target : Expr Node)
    (clean : (target.infer table target.targetMode).log.errors = []) :
    (target.infer table target.targetMode).log.ids ++ target.newTarget table = target.ids := by
  simp only [Expr.targetMode, Expr.newTarget] at *
  cases bare : target.ident? with
  | none =>
      rw [bare] at clean
      have written : Mode.write ≠ .define := by decide
      have complete := infer_completes valid settled written target clean
      rw [List.append_nil]
      exact complete.ids
  | some name =>
      rw [ident_of_bare bare]
      change (recorded name.node (name.infer table .define)).log.ids ++ _ = _
      rw [recorded_ids, name_infer_ids, name_infer_value]
      cases found : table.symbol? name.text with
      | none => simp [Expr.ids, found]
      | some symbol =>
          obtain ⟨type, typed⟩ := settled.typed found
          simp [Expr.ids, found, typed, Outcome.ofType?]

theorem targets_ids (valid : table.WellFormed ⊤) (settled : table.Settled)
    (targets : List (Expr Node))
    (clean : ∀ target ∈ targets, (target.infer table target.targetMode).log.errors = []) :
    ((targets.flatMap fun target => (target.infer table target.targetMode).log.ids) ++
      targets.flatMap (Expr.newTarget table)).Perm (exprIds targets) := by
  induction targets with
  | nil => exact .nil
  | cons target rest ih =>
      rw [List.forall_mem_cons] at clean
      rw [List.flatMap_cons, List.flatMap_cons, exprIds]
      refine perm_join ?_ (ih clean.2)
      rw [target_ids valid settled target clean.1]

theorem declare_targets_settled (settled : table.Settled)
    (targets : List (Expr Node × Option Ty))
    (typed : ∀ target ∈ targets, target.2.isSome = true) :
    (table.declareTargets targets).Settled :=
  SymbolTable.declare_targets_preserve
    (fun target member _ after name => after.bind name .readWrite (typed target member)) settled

theorem assignment_covers (valid : table.WellFormed ⊤) (settled : table.Settled) (span : Span)
    (targets : List (Expr Node)) (value : Expr Node)
    (clean : (checkAssignment table span targets value).log.errors = []) :
    (checkAssignment table span targets value).Covers
      (targets.flatMap (Expr.newTarget table)) (value.ids ++ exprIds targets) := by
  obtain ⟨checked, _⟩ := bind_clean.mp clean
  obtain ⟨valueClean, later⟩ := bind_clean.mp checked
  obtain ⟨targetsClean, later⟩ := bind_clean.mp later
  obtain ⟨fit, _⟩ := bind_clean.mp later
  have complete := infer_completes valid settled read_used value valueClean
  obtain ⟨values, known⟩ := Option.isSome_iff_exists.mp complete.known
  refine ⟨?_, ?_⟩
  · change (table.declareTargets (targets.zip (targetTypes targets _ _))).Settled
    refine declare_targets_settled settled _ fun target member => ?_
    rw [known] at fit member
    rw [errors_reportAll] at fit
    rw [fit] at member
    obtain ⟨type, _, same⟩ := List.mem_map.mp (List.of_mem_zip member).2
    rw [← same]
    rfl
  · rw [assignment_ids, List.append_assoc, complete.ids]
    refine List.Perm.append_left value.ids (targets_ids valid settled targets ?_)
    rw [errors_mapM, List.flatMap_eq_nil_iff] at targetsClean
    exact fun target member => (bind_clean.mp (targetsClean target member)).1

theorem conditional_covers {block : Logged SymbolTable} {operand : Operand}
    {missing all : List Nat} (inner : block.Covers missing all) :
    (do
      let table ← block
      operand.expectCondition
      return table.pop : Logged SymbolTable).Covers missing all := by
  refine ⟨inner.settled.pop, ?_⟩
  rw [conditional_ids]
  exact inner.ids

theorem counted_covers {block : Logged SymbolTable} {missing all : List Nat}
    (inner : block.Covers missing all) :
    (do
      let table ← block
      return table.pop : Logged SymbolTable).Covers missing all := by
  refine ⟨inner.settled.pop, ?_⟩
  rw [bind_ids _ fun _ => rfl]
  exact inner.ids

theorem counter_settled (settled : table.Settled) (counter : Name Node) :
    (table.push.bindCounter counter).Settled :=
  settled.push.bind counter.text .read rfl

theorem block_valid {table : SymbolTable} (valid : table.WellFormed ⊤) (block : Block Node) :
    (block.check table).value.WellFormed ⊤ :=
  (block_yields valid block fun _ _ => ENat.natCast_lt_top _).value

mutual
theorem stmt_covers {table : SymbolTable} (valid : table.WellFormed ⊤) (settled : table.Settled)
    (statement : Stmt Node) (clean : (statement.check table).log.errors = []) :
    (statement.check table).Covers (statement.newTargets table) statement.expressionIds := by
  cases statement with
  | «variable» declaration => exact declaration_covers valid settled .variable declaration clean
  | constant declaration => exact declaration_covers valid settled .constant declaration clean
  | loop node condition body =>
      rw [Stmt.check] at clean ⊢
      rw [Stmt.newTargets, Stmt.expressionIds]
      obtain ⟨judged, later⟩ := bind_clean.mp clean
      obtain ⟨inner, _⟩ := bind_clean.mp later
      apply covers_after (read_ids valid settled judged)
      exact conditional_covers (block_covers valid.push settled.push body inner)
  | branch node condition thenBlock elseBlock =>
      cases elseBlock with
      | none =>
          rw [Stmt.check] at clean ⊢
          rw [Stmt.newTargets, Stmt.expressionIds]
          obtain ⟨judged, later⟩ := bind_clean.mp clean
          obtain ⟨inner, _⟩ := bind_clean.mp later
          apply covers_after (read_ids valid settled judged)
          exact conditional_covers (block_covers valid.push settled.push thenBlock inner)
      | some elseBlock =>
          rw [Stmt.check] at clean ⊢
          rw [Stmt.newTargets, Stmt.expressionIds]
          obtain ⟨judged, later⟩ := bind_clean.mp clean
          obtain ⟨inner, later⟩ := bind_clean.mp later
          obtain ⟨otherwise, _⟩ := bind_clean.mp later
          apply covers_after (read_ids valid settled judged)
          have taken := block_covers valid.push settled.push thenBlock inner
          have left := block_valid valid.push thenBlock
          refine covers_bind taken (conditional_covers ?_)
          exact block_covers left.pop.push taken.settled.pop.push elseBlock otherwise
  | forRange node counter domain lower upper body =>
      rw [Stmt.check] at clean ⊢
      rw [Stmt.newTargets, Stmt.expressionIds]
      obtain ⟨bounds, later⟩ := bind_clean.mp clean
      obtain ⟨inner, _⟩ := bind_clean.mp later
      obtain ⟨below, rest⟩ := bind_clean.mp bounds
      obtain ⟨above, _⟩ := bind_clean.mp rest
      refine covers_after ?_ (counted_covers
        (block_covers (counter_wellFormed valid counter) (counter_settled settled counter) body
          inner))
      rw [check_bounds_ids, read_ids valid.push settled.push below,
        read_ids valid.push settled.push above]
  | forSet node counter domain set body =>
      rw [Stmt.check] at clean ⊢
      rw [Stmt.newTargets, Stmt.expressionIds, ← List.nil_append body.expressionIds]
      obtain ⟨_, later⟩ := bind_clean.mp clean
      obtain ⟨inner, _⟩ := bind_clean.mp later
      refine covers_after (ids_of_view (Log.View.ids.part_resolve_set ..)) (counted_covers ?_)
      exact block_covers (counter_wellFormed valid counter) (counter_settled settled counter) body
        inner
  | print node value =>
      rw [Stmt.check] at clean ⊢
      rw [Stmt.newTargets, Stmt.expressionIds]
      obtain ⟨printed, _⟩ := bind_clean.mp clean
      obtain ⟨inferred, _⟩ := bind_clean.mp printed
      apply covers_silent settled
      rw [bind_ids _ fun _ => rfl, ids_of_view (Log.View.ids.part_print table value)]
      exact read_ids valid settled inferred
  | assign node targets value =>
      rw [Stmt.check] at clean ⊢
      rw [Stmt.newTargets, Stmt.expressionIds]
      exact assignment_covers valid settled node.span targets value clean
  | eval node value =>
      rw [Stmt.check] at clean ⊢
      rw [Stmt.newTargets, Stmt.expressionIds]
      obtain ⟨inferred, _⟩ := bind_clean.mp clean
      apply covers_silent settled
      rw [bind_ids _ fun _ => rfl]
      exact read_ids valid settled inferred
theorem block_covers {table : SymbolTable} (valid : table.WellFormed ⊤) (settled : table.Settled)
    (block : Block Node) (clean : (block.check table).log.errors = []) :
    (block.check table).Covers (block.newTargets table) block.expressionIds := by
  obtain ⟨node, statements⟩ := block
  rw [Block.check] at clean ⊢
  rw [Block.newTargets, Block.expressionIds]
  exact stmts_cover valid settled statements clean
theorem stmts_cover {table : SymbolTable} (valid : table.WellFormed ⊤) (settled : table.Settled)
    (statements : List (Stmt Node)) (clean : (checkStmts table statements).log.errors = []) :
    (checkStmts table statements).Covers (stmtNewTargets table statements)
      (stmtExpressionIds statements) := by
  cases statements with
  | nil => exact covers_silent settled rfl
  | cons statement rest =>
      rw [checkStmts] at clean ⊢
      rw [stmtNewTargets, stmtExpressionIds]
      obtain ⟨first, later⟩ := bind_clean.mp clean
      have covered := stmt_covers valid settled statement first
      have left := (stmt_yields valid statement fun _ _ => ENat.natCast_lt_top _).value
      exact covers_bind covered (stmts_cover left covered.settled rest later)
end

end TensorLang
