import TensorLang.Proofs.CompletePrograms
import TensorLang.Proofs.LexicalScope
import TensorLang.Proofs.Sites

set_option autoImplicit false

namespace TensorLang

open Logged

theorem role_assigning (declared : List Declared) (target : Expr Node) (name : String) :
    roleOf (assigning declared target) name =
      (roleOf declared name).or (if name ∈ target.declares then some .target else none) := by
  simp only [assigning]
  cases target with
  | ident found =>
      have declares : name ∈ (Expr.ident found).declares ↔ name = found.text := List.mem_singleton
      dsimp only [Expr.ident?]
      by_cases same : name = found.text
      · rw [if_pos (declares.mpr same), same]
        cases known : roleOf declared found.text with
        | some role => exact known
        | none => simp [roleOf]
      · rw [if_neg (mt declares.mp same), Option.or_none]
        cases roleOf declared found.text with
        | some role => rfl
        | none => simp [roleOf, Ne.symm same]
  | _ => exact Option.or_none.symm

theorem role_assigning_all (declared : List Declared) (targets : List (Expr Node))
    (name : String) :
    roleOf (targets.foldl assigning declared) name =
      (roleOf declared name).or
        (if name ∈ targets.flatMap Expr.declares then some .target else none) := by
  induction targets generalizing declared with
  | nil => exact Option.or_none.symm
  | cons target rest ih =>
      rw [List.foldl_cons, ih, role_assigning, Option.or_assoc]
      simp only [List.flatMap_cons, List.mem_append]
      by_cases first : name ∈ target.declares
      · simp only [if_pos first, if_pos (Or.inl first), Option.some_or]
      · simp only [first, false_or, if_false, Option.none_or]

namespace Context

-- The table binds the names that are declared, with the access of their latest declaration.
def Mirrors (context : Context) : Prop :=
  ∀ name, (context.table.symbol? name).map Symbol.access =
    (roleOf context.declared name).map Role.access

variable {table : SymbolTable} {declared : List Declared}

theorem Mirrors.of_scopes {after : SymbolTable} (mirrors : Mirrors ⟨table, declared⟩)
    (same : after.scopes = table.scopes) : Mirrors ⟨after, declared⟩ := by
  intro name
  have lookup : after.symbol? name = table.symbol? name := by
    simp only [SymbolTable.symbol?]
    rw [same]
  rw [← mirrors name]
  exact congrArg (Option.map Symbol.access) lookup

theorem Mirrors.bind (mirrors : Mirrors ⟨table, declared⟩) (new : Declared) (type? : Option Ty) :
    Mirrors ⟨table.bind new.name type? new.role.access, new :: declared⟩ := by
  intro name
  dsimp only
  rw [table.symbol?_bind, roleOf, List.find?_cons]
  by_cases same : new.name = name
  · rw [if_pos same, beq_iff_eq.mpr same]
    rfl
  · rw [if_neg same, beq_false_of_ne same]
    exact mirrors name

theorem Mirrors.bound_iff (mirrors : Mirrors ⟨table, declared⟩) (name : String) :
    table.symbol? name = none ↔ roleOf declared name = none := by
  have same := mirrors name
  dsimp only at same
  rw [← Option.map_eq_none_iff, same, Option.map_eq_none_iff]

theorem Mirrors.assign (mirrors : Mirrors ⟨table, declared⟩) (target : Expr Node)
    (type? : Option Ty) :
    Mirrors ⟨table.declareTarget target type?, assigning declared target⟩ := by
  simp only [SymbolTable.declareTarget, assigning]
  cases target.ident? with
  | none => exact mirrors
  | some name =>
      have bound := mirrors.bound_iff name.text
      dsimp only
      cases known : roleOf declared name.text with
      | none =>
          rw [bound.mpr known]
          exact mirrors.bind ⟨name.text, .target⟩ type?
      | some role =>
          cases found : table.symbol? name.text with
          | none => cases known.symm.trans (bound.mp found)
          | some symbol => exact mirrors

theorem Mirrors.assign_all (mirrors : Mirrors ⟨table, declared⟩)
    (targets : List (Expr Node × Option Ty)) :
    Mirrors ⟨table.declareTargets targets, (targets.map Prod.fst).foldl assigning declared⟩ := by
  induction targets generalizing table declared with
  | nil => exact mirrors
  | cons target rest ih => exact ih (mirrors.assign target.1 target.2)

variable {context : Context}

theorem Mirrors.after (mirrors : context.Mirrors) (statement : Stmt Node)
    (clean : (statement.check context.table).log.errors = []) :
    (context.after statement).Mirrors := by
  have kept (silent : statement.declares = []) :
      Mirrors ⟨(statement.check context.table).value, context.declared⟩ :=
    mirrors.of_scopes (stmt_keeps context.table silent).scopes
  simp only [Context.after]
  cases statement with
  | «variable» declaration =>
      rw [Stmt.check] at clean ⊢
      rw [declaration_clean clean]
      exact mirrors.bind ⟨declaration.name.text, .variable⟩ _
  | constant declaration =>
      rw [Stmt.check] at clean ⊢
      rw [declaration_clean clean]
      exact mirrors.bind ⟨declaration.name.text, .constant⟩ _
  | assign node targets value =>
      have all := check_targets_all context.table node.span targets value
      have assigned := mirrors.assign_all (checkTargets context.table node.span targets value).value
      rw [all] at assigned
      exact assigned
  | _ => exact kept rfl

theorem Mirrors.push (mirrors : context.Mirrors) : context.push.Mirrors := mirrors

theorem Mirrors.counting (mirrors : context.Mirrors) (counter : Name Node) :
    (context.counting counter).Mirrors :=
  mirrors.push.bind ⟨counter.text, .counter⟩ (some .int)

theorem Mirrors.afterBlock (mirrors : context.Mirrors) (block : Block Node) :
    (context.afterBlock block).Mirrors :=
  mirrors.of_scopes (block_gains context.table.push block).leave.scopes

end Context

-- A statement that reports nothing, where names are bound as they are declared.
structure Site.Faultless (site : Site) : Prop where
  mirrors : site.context.Mirrors
  clean : (site.statement.check site.context.table).log.errors = []

mutual
theorem inner_sites_faultless {context : Context} (mirrors : context.Mirrors)
    (statement : Stmt Node) (clean : (statement.check context.table).log.errors = []) :
    ∀ site ∈ statement.innerSites context, site.Faultless := by
  cases statement with
  | loop node condition body =>
      rw [Stmt.check] at clean
      obtain ⟨_, later⟩ := bind_clean.mp clean
      obtain ⟨inner, _⟩ := bind_clean.mp later
      exact block_sites_faultless mirrors.push body inner
  | branch node condition thenBlock elseBlock =>
      cases elseBlock with
      | none =>
          rw [Stmt.check] at clean
          obtain ⟨_, later⟩ := bind_clean.mp clean
          obtain ⟨inner, _⟩ := bind_clean.mp later
          exact block_sites_faultless mirrors.push thenBlock inner
      | some elseBlock =>
          rw [Stmt.check] at clean
          obtain ⟨_, later⟩ := bind_clean.mp clean
          obtain ⟨inner, later⟩ := bind_clean.mp later
          obtain ⟨otherwise, _⟩ := bind_clean.mp later
          rw [Stmt.innerSites, List.forall_mem_append]
          exact ⟨block_sites_faultless mirrors.push thenBlock inner,
            block_sites_faultless (mirrors.afterBlock thenBlock).push elseBlock otherwise⟩
  | forRange node counter domain lower upper body =>
      rw [Stmt.check] at clean
      obtain ⟨_, later⟩ := bind_clean.mp clean
      obtain ⟨inner, _⟩ := bind_clean.mp later
      exact block_sites_faultless (mirrors.counting counter) body inner
  | forSet node counter domain set body =>
      rw [Stmt.check] at clean
      obtain ⟨_, later⟩ := bind_clean.mp clean
      obtain ⟨inner, _⟩ := bind_clean.mp later
      exact block_sites_faultless (mirrors.counting counter) body inner
  | «variable» declaration => exact List.forall_mem_nil _
  | constant declaration => exact List.forall_mem_nil _
  | print node value => exact List.forall_mem_nil _
  | assign node targets value => exact List.forall_mem_nil _
  | eval node value => exact List.forall_mem_nil _
theorem block_sites_faultless {context : Context} (mirrors : context.Mirrors)
    (block : Block Node) (clean : (block.check context.table).log.errors = []) :
    ∀ site ∈ block.sites context, site.Faultless := by
  obtain ⟨node, statements⟩ := block
  exact stmt_sites_faultless mirrors statements clean
theorem stmt_sites_faultless {context : Context} (mirrors : context.Mirrors)
    (statements : List (Stmt Node))
    (clean : (checkStmts context.table statements).log.errors = []) :
    ∀ site ∈ stmtSites context statements, site.Faultless := by
  cases statements with
  | nil => exact List.forall_mem_nil _
  | cons statement rest =>
      rw [checkStmts] at clean
      obtain ⟨first, later⟩ := bind_clean.mp clean
      rw [stmtSites, List.forall_mem_cons, List.forall_mem_append]
      exact ⟨⟨mirrors, first⟩, inner_sites_faultless mirrors statement first,
        stmt_sites_faultless (mirrors.after statement first) rest later⟩
end

theorem ParameterDecl.declared_slot (parameter : ParameterDecl Node) :
    parameter.declared = ⟨parameter.slot.name, parameter.declared.role⟩ ∧
      parameter.declared.role.access = parameter.slot.access := by
  refine ⟨rfl, ?_⟩
  simp only [ParameterDecl.declared, ParameterDecl.slot]
  cases parameter.inout <;> rfl

theorem ResultDecl.declared_slot (result : ResultDecl Node) :
    result.declared = ⟨result.slot.name, result.declared.role⟩ ∧
      result.declared.role.access = result.slot.access := ⟨rfl, rfl⟩

namespace Context

variable {context : Context}

theorem Mirrors.slots {α : Type} {slot : α → Slot} {declares : α → Declared}
    (alike : ∀ item, declares item = ⟨(slot item).name, (declares item).role⟩ ∧
      (declares item).role.access = (slot item).access)
    {table : SymbolTable} (settled : table.Settled) {declared : List Declared}
    (mirrors : Mirrors ⟨table, declared⟩) (items : List α)
    (clean : (bindSlots table (items.map slot)).log.errors = []) :
    Mirrors ⟨(bindSlots table (items.map slot)).value.1,
      (items.map declares).reverse ++ declared⟩ := by
  induction items generalizing table declared with
  | nil => exact mirrors
  | cons item rest ih =>
      rw [List.map_cons, bindSlots] at clean ⊢
      obtain ⟨written, later⟩ := bind_clean.mp clean
      obtain ⟨type, typed⟩ :=
        Option.isSome_iff_exists.mp (annotation_gives settled (slot item).type written)
      rw [typed] at later
      obtain ⟨tail, _⟩ := bind_clean.mp later
      rw [value_bind, typed]
      have bound := mirrors.bind (declares item) (some type)
      rw [(alike item).2] at bound
      rw [List.map_cons, List.reverse_cons, List.append_assoc, (alike item).1]
      rw [(alike item).1] at bound
      exact ih (settled.bind _ _ rfl) bound tail

theorem Mirrors.inside (mirrors : context.Mirrors) (settled : context.table.Settled)
    (declaration : RoutineDecl Node)
    (clean : (declaration.check context.table).log.errors = []) :
    (context.inside declaration).Mirrors := by
  rw [RoutineDecl.check] at clean
  obtain ⟨head, later⟩ := bind_clean.mp clean
  obtain ⟨tail, _⟩ := bind_clean.mp later
  have parameters : Mirrors _ := mirrors.push.slots ParameterDecl.declared_slot settled.push
    declaration.parameters head
  have inner := (bind_slots_complete settled.push _ head).1
  exact parameters.slots ResultDecl.declared_slot inner declaration.results tail

theorem Mirrors.afterDefinition (mirrors : context.Mirrors) (definition : Definition Node)
    (clean : (definition.check context.table).log.errors = []) :
    (context.afterDefinition definition).Mirrors := by
  simp only [Context.afterDefinition]
  cases definition with
  | element declaration => exact mirrors.of_scopes (element_scopes context.table declaration)
  | external declaration =>
      rw [Definition.check] at clean ⊢
      rw [external_clean clean]
      exact mirrors.bind ⟨declaration.name.text, .external⟩ _
  | routine declaration =>
      exact mirrors.of_scopes (declaration.check_may_register context.table).scopes
  | constant declaration => exact mirrors.after (.constant declaration) clean
  | test declaration => exact mirrors

end Context

theorem definition_sites_faultless {context : Context} (mirrors : context.Mirrors)
    (settled : context.table.Settled) (definition : Definition Node)
    (clean : (definition.check context.table).log.errors = []) :
    ∀ site ∈ definition.sites context, site.Faultless := by
  cases definition with
  | routine declaration =>
      have inside := mirrors.inside settled declaration clean
      rw [Definition.check, RoutineDecl.check] at clean
      obtain ⟨_, later⟩ := bind_clean.mp clean
      obtain ⟨_, later⟩ := bind_clean.mp later
      obtain ⟨body, _⟩ := bind_clean.mp later
      exact block_sites_faultless inside declaration.body body
  | element declaration => exact List.forall_mem_nil _
  | external declaration => exact List.forall_mem_nil _
  | constant declaration => exact List.forall_mem_nil _
  | test declaration => exact List.forall_mem_nil _

theorem definitions_sites_faultless {context : Context} (mirrors : context.Mirrors)
    (valid : context.table.WellFormed ⊤) (settled : context.table.Settled)
    (definitions : List (Definition Node))
    (clean : (checkDefinitions context.table definitions).log.errors = []) :
    ∀ site ∈ definitionSites context definitions, site.Faultless := by
  induction definitions generalizing context with
  | nil => exact List.forall_mem_nil _
  | cons definition rest ih =>
      rw [checkDefinitions] at clean
      obtain ⟨first, later⟩ := bind_clean.mp clean
      have left := definition_yields valid definition fun _ _ => ENat.natCast_lt_top _
      have covered := (definition_complete valid settled definition first).1
      rw [definitionSites, List.forall_mem_append]
      exact ⟨definition_sites_faultless mirrors settled definition first,
        ih (mirrors.afterDefinition definition first) left.value.valid covered.settled later⟩

theorem run_sites_faultless (program : Program Node) (intrinsics : Bool)
    (clean : (program.run intrinsics).log.errors = []) :
    ∀ site ∈ program.sites intrinsics, site.Faultless := by
  obtain ⟨table, set, valid, settled, _, _⟩ := initial_settled intrinsics
  have nothing : Context.Mirrors ⟨SymbolTable.empty, []⟩ := fun _ => rfl
  have mirrors := nothing.of_scopes (initial_scopes intrinsics)
  simp only [Program.run, Program.sites, Context.initial] at *
  rw [set, SymbolTable.registering_ok] at mirrors clean ⊢
  rw [pure_bind] at clean
  exact definitions_sites_faultless mirrors valid settled program.definitions clean

end TensorLang
