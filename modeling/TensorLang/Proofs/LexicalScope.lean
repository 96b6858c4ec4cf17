import TensorLang.Proofs.ScopeDiscipline
import TensorLang.Proofs.UnboundNames

set_option autoImplicit false

namespace TensorLang

namespace SymbolTable

def Binds (table : SymbolTable) (names : List String) : Prop :=
  ∀ name, (table.symbol? name).isSome = true ↔ name ∈ names

namespace Binds

variable {before after : SymbolTable} {names more : List String}

theorem empty : SymbolTable.empty.Binds [] := by
  intro name
  simp [SymbolTable.symbol?, scopes, SymbolTable.empty, Scope.symbol?]

theorem of_scopes (binds : before.Binds names) (same : after.scopes = before.scopes) :
    after.Binds names := by
  intro name
  have lookup : after.symbol? name = before.symbol? name := by
    simp only [SymbolTable.symbol?]
    rw [same]
  rw [lookup]
  exact binds name

theorem push (binds : before.Binds names) : before.push.Binds names := binds

theorem gain (binds : before.Binds names) (gained : before.Gains more after)
    (bound : ∀ name ∈ more, (after.symbol? name).isSome = true) :
    after.Binds (more ++ names) := by
  intro name
  rw [List.mem_append, ← binds name]
  constructor
  · exact gained.new_or_old
  · intro known
    rcases known with new | old
    · exact bound name new
    · exact gained.bound old

theorem bind (binds : before.Binds names) (name : String) (type? : Option Ty) (access : Access) :
    (before.bind name type? access).Binds (name :: names) := by
  have gained := Gains.bind before name type? access
  apply binds.gain gained
  intro other same
  rw [List.mem_singleton.mp same]
  exact before.bind_bound name type? access

end Binds

theorem declare_target_bound (table : SymbolTable) (target : Expr Node) (type? : Option Ty) :
    ∀ name ∈ target.declares, ((table.declareTarget target type?).symbol? name).isSome = true := by
  cases target with
  | ident written =>
      intro name declared
      rw [List.mem_singleton.mp declared]
      simp only [declareTarget, Expr.ident?]
      cases found : table.symbol? written.text with
      | some symbol => exact Option.isSome_iff_exists.mpr ⟨symbol, found⟩
      | none => exact table.bind_bound written.text type? .readWrite
  | _ => exact List.forall_mem_nil _

theorem declare_targets_bound (table : SymbolTable) (targets : List (Expr Node × Option Ty)) :
    ∀ name ∈ targets.flatMap fun target => target.1.declares,
      ((table.declareTargets targets).symbol? name).isSome = true := by
  induction targets generalizing table with
  | nil => exact List.forall_mem_nil _
  | cons target rest ih =>
      rw [List.flatMap_cons, List.forall_mem_append]
      have first := table.declare_target_bound target.1 target.2
      have later := declare_targets_gain (table.declareTarget target.1 target.2) rest
      exact ⟨fun name declared => later.bound (first name declared), ih _⟩

end SymbolTable

open SymbolTable

theorem declaration_bound (table : SymbolTable) (constancy : Constancy)
    (declaration : Declaration Node) :
    ((declaration.check table constancy).value.symbol? declaration.name.text).isSome = true := by
  rw [declaration_value]
  by_cases typed : (table.local? declaration.name.text).any (·.var.type?.isSome) = true
  · rw [if_pos typed]
    cases found : table.local? declaration.name.text with
    | none =>
        rw [found] at typed
        cases typed
    | some symbol => exact Option.isSome_iff_exists.mpr ⟨symbol, symbol_of_local found⟩
  · rw [if_neg typed]
    exact table.bind_bound _ _ _

theorem target_types_length (span : Span) {targets : List (Expr Node)} {checked : List Target}
    (counts : checked.length = targets.length) (values? : Outcome) :
    (targetTypes targets values? (values?.elim [] (assignmentErrors span checked))).length =
      targets.length := by
  cases values? with
  | none => exact List.length_map _
  | some values =>
      simp only [targetTypes, Option.elim_some, assignmentErrors]
      by_cases same : values.length = checked.length
      · rw [if_pos same]
        split
        · rw [List.length_map, same, counts]
        · exact List.length_map _
      · rw [if_neg same]
        exact List.length_map _

theorem check_targets_all (table : SymbolTable) (span : Span) (targets : List (Expr Node))
    (value : Expr Node) :
    (checkTargets table span targets value).value.map Prod.fst = targets := by
  have counts : (targets.mapM (Expr.checkTarget table)).value.length = targets.length := by simp
  have length := target_types_length span counts (value.infer table .read).value
  exact List.map_fst_zip (by omega)

theorem assignment_bound (table : SymbolTable) (span : Span) (targets : List (Expr Node))
    (value : Expr Node) :
    ∀ name ∈ targets.flatMap Expr.declares,
      ((checkAssignment table span targets value).value.symbol? name).isSome = true := by
  have bound := table.declare_targets_bound (checkTargets table span targets value).value
  have all := congrArg (List.flatMap Expr.declares) (check_targets_all table span targets value)
  rw [List.flatMap_map] at all
  rw [← all]
  exact bound

theorem stmt_bound (table : SymbolTable) (statement : Stmt Node) :
    ∀ name ∈ statement.declares, ((statement.check table).value.symbol? name).isSome = true := by
  cases statement with
  | «variable» declaration =>
      intro name declared
      rw [List.mem_singleton.mp declared]
      exact declaration_bound table .variable declaration
  | constant declaration =>
      intro name declared
      rw [List.mem_singleton.mp declared]
      exact declaration_bound table .constant declaration
  | assign node targets value => exact assignment_bound table node.span targets value
  | _ => exact List.forall_mem_nil _

theorem external_bound (table : SymbolTable) (declaration : ExternalDecl Node) :
    ((declaration.check table).value.symbol? declaration.name.text).isSome = true := by
  rw [ExternalDecl.check, Logged.value_bind]
  dsimp only
  cases found : table.symbol? declaration.name.text with
  | some symbol => exact Option.isSome_iff_exists.mpr ⟨symbol, found⟩
  | none => exact table.bind_bound _ _ _

theorem bind_slots_bind {table : SymbolTable} {names : List String} (binds : table.Binds names)
    (slots : List Slot) :
    (bindSlots table slots).value.1.Binds (boundSlots table slots ++ names) := by
  induction slots generalizing table names with
  | nil => exact binds
  | cons slot rest ih =>
      rw [bindSlots, boundSlots, Logged.value_bind]
      cases (slot.type.resolve table).value with
      | none => exact ih binds
      | some type =>
          have later := ih (binds.bind slot.name (some type) slot.access)
          intro name
          exact (later name).trans List.perm_middle.mem_iff

namespace Environment

-- The scope says what the table binds.
def Faithful (around : Environment) : Prop := around.table.Binds around.scope

variable {around : Environment}

theorem Faithful.push (faithful : around.Faithful) : around.push.Faithful := faithful

theorem Faithful.counting (faithful : around.Faithful) (counter : Name Node) :
    (around.push.counting counter).Faithful :=
  faithful.push.bind counter.text (some .int) .read

theorem Faithful.after (faithful : around.Faithful) (statement : Stmt Node) :
    (around.after statement).Faithful :=
  faithful.gain (stmt_gains around.table statement) (stmt_bound around.table statement)

theorem Faithful.afterBlock (faithful : around.Faithful) (block : Block Node) :
    (around.afterBlock block).Faithful :=
  faithful.of_scopes (block_gains around.table.push block).leave.scopes

theorem Faithful.inside (faithful : around.Faithful) (declaration : RoutineDecl Node) :
    (around.inside declaration).Faithful := by
  have parameters := bind_slots_bind faithful.push (declaration.parameters.map ParameterDecl.slot)
  have results := bind_slots_bind parameters (declaration.results.map ResultDecl.slot)
  rw [← List.append_assoc] at results
  exact results

theorem Faithful.afterDefinition (faithful : around.Faithful) (definition : Definition Node) :
    (around.afterDefinition definition).Faithful := by
  cases definition with
  | element declaration => exact faithful.of_scopes (element_scopes around.table declaration)
  | external declaration =>
      apply faithful.gain (external_gains around.table declaration)
      intro name declared
      rw [List.mem_singleton.mp declared]
      exact external_bound around.table declaration
  | routine declaration =>
      exact faithful.of_scopes (declaration.check_may_register around.table).scopes
  | constant declaration => exact faithful.after (.constant declaration)
  | test declaration => exact faithful

theorem initial_faithful (intrinsics : Bool) : (Environment.initial intrinsics).Faithful :=
  Binds.empty.of_scopes (initial_scopes intrinsics)

end Environment

mutual
theorem references_around (around : Environment) (mode : Mode) (expression : Expr Node) :
    ∀ reference ∈ expression.references around mode, reference.around = around := by
  cases expression with
  | binary node operator left right =>
      rw [Expr.references, List.forall_mem_append]
      exact ⟨references_around around .read left, references_around around .read right⟩
  | compare node operands operators => exact expr_references_around around operands
  | unary node operator operand => exact references_around around .read operand
  | transpose node operand => exact references_around around .read operand
  | call node routine arguments => exact expr_references_around around arguments
  | map node routine partials target => exact expr_references_around around partials
  | read node base indices =>
      have inside := index_references_around around indices
      rw [Expr.references, List.forall_mem_append, List.forall_mem_map]
      exact ⟨references_around around mode.ofBase base, inside⟩
  | field node base name => exact references_around around mode.ofBase base
  | paren node inner => exact references_around around mode inner
  | ident name => exact List.forall_mem_singleton.mpr rfl
  | int node value => exact List.forall_mem_nil _
  | float node value => exact List.forall_mem_nil _
  | bool node value => exact List.forall_mem_nil _
  | dense literal => exact List.forall_mem_nil _
theorem expr_references_around (around : Environment) (operands : List (Expr Node)) :
    ∀ reference ∈ exprReferences around operands, reference.around = around := by
  cases operands with
  | nil => exact List.forall_mem_nil _
  | cons operand rest =>
      rw [exprReferences, List.forall_mem_append]
      exact ⟨references_around around .read operand, expr_references_around around rest⟩
theorem index_references_around (around : Environment) (indices : List (Index Node)) :
    ∀ reference ∈ indexReferences around indices, reference.around = around := by
  cases indices with
  | nil => exact List.forall_mem_nil _
  | cons index rest =>
      cases index with
      | slice node => exact index_references_around around rest
      | «at» index =>
          rw [indexReferences, List.forall_mem_append]
          exact ⟨references_around around .read index, index_references_around around rest⟩
end

theorem references_faithful {around : Environment} (faithful : around.Faithful) (mode : Mode)
    (expression : Expr Node) :
    ∀ reference ∈ expression.references around mode, reference.around.Faithful := by
  intro reference member
  rw [references_around around mode expression reference member]
  exact faithful

theorem value_references_faithful {around : Environment} (faithful : around.Faithful)
    (value? : Option (Expr Node)) :
    ∀ reference ∈ valueReferences around value?, reference.around.Faithful := by
  cases value? with
  | none => exact List.forall_mem_nil _
  | some value => exact references_faithful faithful .read value

mutual
theorem stmt_references_faithful {around : Environment} (faithful : around.Faithful)
    (statement : Stmt Node) :
    ∀ reference ∈ statement.references around, reference.around.Faithful := by
  cases statement with
  | «variable» declaration => exact value_references_faithful faithful declaration.value
  | constant declaration => exact value_references_faithful faithful declaration.value
  | loop node condition body =>
      rw [Stmt.references, List.forall_mem_append]
      exact ⟨references_faithful faithful .read condition,
        block_references_faithful faithful.push body⟩
  | branch node condition thenBlock elseBlock =>
      have asked := references_faithful faithful .read condition
      have taken := block_references_faithful faithful.push thenBlock
      cases elseBlock with
      | none =>
          rw [Stmt.references, List.forall_mem_append]
          exact ⟨asked, taken⟩
      | some elseBlock =>
          rw [Stmt.references, List.forall_mem_append, List.forall_mem_append]
          exact ⟨⟨asked, taken⟩,
            block_references_faithful (faithful.afterBlock thenBlock).push elseBlock⟩
  | forRange node counter domain lower upper body =>
      rw [Stmt.references, List.forall_mem_append, List.forall_mem_append]
      exact ⟨⟨references_faithful faithful.push .read lower,
        references_faithful faithful.push .read upper⟩,
        block_references_faithful (faithful.counting counter) body⟩
  | forSet node counter domain set body =>
      exact block_references_faithful (faithful.counting counter) body
  | print node value => exact references_faithful faithful .read value
  | assign node targets value =>
      rw [Stmt.references, List.forall_mem_append]
      apply And.intro (references_faithful faithful .read value)
      intro reference member
      obtain ⟨target, _, inside⟩ := List.mem_flatMap.mp member
      exact references_faithful faithful target.targetMode target reference inside
  | eval node value => exact references_faithful faithful .read value
theorem block_references_faithful {around : Environment} (faithful : around.Faithful)
    (block : Block Node) :
    ∀ reference ∈ block.references around, reference.around.Faithful := by
  obtain ⟨node, statements⟩ := block
  exact stmts_references_faithful faithful statements
theorem stmts_references_faithful {around : Environment} (faithful : around.Faithful)
    (statements : List (Stmt Node)) :
    ∀ reference ∈ stmtReferences around statements, reference.around.Faithful := by
  cases statements with
  | nil => exact List.forall_mem_nil _
  | cons statement rest =>
      rw [stmtReferences, List.forall_mem_append]
      exact ⟨stmt_references_faithful faithful statement,
        stmts_references_faithful (faithful.after statement) rest⟩
end

theorem definition_references_faithful {around : Environment} (faithful : around.Faithful)
    (definition : Definition Node) :
    ∀ reference ∈ definition.references around, reference.around.Faithful := by
  cases definition with
  | routine declaration =>
      exact block_references_faithful (faithful.inside declaration) declaration.body
  | constant declaration => exact value_references_faithful faithful declaration.value
  | element declaration => exact List.forall_mem_nil _
  | external declaration => exact List.forall_mem_nil _
  | test declaration => exact List.forall_mem_nil _

theorem definitions_references_faithful {around : Environment} (faithful : around.Faithful)
    (definitions : List (Definition Node)) :
    ∀ reference ∈ definitionReferences around definitions, reference.around.Faithful := by
  induction definitions generalizing around with
  | nil => exact List.forall_mem_nil _
  | cons definition rest ih =>
      rw [definitionReferences, List.forall_mem_append]
      exact ⟨definition_references_faithful faithful definition,
        ih (faithful.afterDefinition definition)⟩

theorem unbound_iff {reference : Reference} (faithful : reference.around.Faithful) :
    reference.isUnbound = true ↔ reference.name.text ∉ reference.around.scope := by
  rw [← faithful reference.name.text, Reference.isUnbound]
  cases reference.around.table.symbol? reference.name.text <;> simp

-- A name is reported as unbound only where no declaration of it is in scope. A parameter or a
-- result whose annotation cannot be resolved does not count as a declaration.
theorem unbound_names_out_of_scope (program : Program Node) (intrinsics : Bool) :
    (program.run intrinsics).log.errors.filter TypeError.isUnbound =
        ((program.references intrinsics).filter Reference.isReported).map Reference.error ∧
      ∀ reference ∈ program.references intrinsics, reference.isReported = true ↔
        reference.visited = true ∧ reference.mode ≠ .define ∧
          reference.name.text ∉ reference.around.scope := by
  have faithful := definitions_references_faithful
    (Environment.initial_faithful intrinsics) program.definitions
  constructor
  · exact run_unbound_errors program intrinsics
  · intro reference member
    rw [← unbound_iff (faithful reference member)]
    simp [Reference.isReported, and_assoc]

def lostParameter : Program Node :=
  let name (text : String) : Name Place := ⟨none, text⟩
  Program.numbered 0 ⟨none,
    [.routine ⟨none, .procedure, name "show",
      [⟨none, name "p", false, .element (name "Missing")⟩], [],
      ⟨none, [.eval none (.ident (name "p"))]⟩⟩]⟩

theorem lost_parameter_reported :
    (∃ declaration ∈ lostParameter.routines, ∃ parameter ∈ declaration.parameters,
        parameter.name.text = "p") ∧
      (lostParameter.references false).map (·.name.text) = ["p"] ∧
      (lostParameter.run false).log.errors.map (·.fault.message) =
        ["undeclared element type 'Missing'", "undeclared variable or constant 'p'"] := by
  decide +kernel

end TensorLang
