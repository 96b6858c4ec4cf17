import TensorLang.Proofs.AccessModes
import TensorLang.Proofs.FaultlessSites

set_option autoImplicit false

namespace TensorLang

open Logged

theorem underlying_bound {table : SymbolTable} {expression : Expr Node} {name : Name Node}
    (underneath : expression.underlying? = some name)
    (clean : (expression.infer table .read).log.errors = []) :
    ∃ symbol, table.symbol? name.text = some symbol := by
  match expression with
  | .ident written =>
      cases Option.some.inj underneath
      change (recorded name.node (name.infer table .read)).log.errors = [] at clean
      obtain ⟨inferred, _⟩ := bind_clean.mp clean
      rw [name.infer_promised] at inferred
      cases found : table.symbol? name.text with
      | some symbol => exact ⟨symbol, rfl⟩
      | none =>
          rw [found] at inferred
          exact (nomatch inferred)
  | .paren node inner =>
      obtain ⟨inferred, _⟩ := bind_clean.mp clean
      have inside : inner.underlying? = some name := underneath
      exact underlying_bound inside inferred
  | .read node base indices =>
      obtain ⟨whole, _⟩ := bind_clean.mp clean
      obtain ⟨inferred, _⟩ := bind_clean.mp whole
      have inside : base.underlying? = some name := underneath
      exact underlying_bound inside inferred
  | .field node base field =>
      obtain ⟨whole, _⟩ := bind_clean.mp clean
      obtain ⟨inferred, _⟩ := bind_clean.mp whole
      have inside : base.underlying? = some name := underneath
      exact underlying_bound inside inferred
  | .binary .. | .compare .. | .unary .. | .transpose .. | .call .. | .map .. | .int .. | .float ..
  | .bool .. | .dense _ => exact (nomatch underneath)

-- A name is writable where its innermost binding is, and its declaration in scope is not one of
-- those that make it read-only.
structure Context.Writable (context : Context) (name : String) : Prop where
  bound : ∃ symbol, context.table.symbol? name = some symbol ∧ symbol.access = .readWrite
  declared : ∃ role, roleOf context.declared name = some role ∧
    role ≠ .constant ∧ role ≠ .counter ∧ role ≠ .parameter false

-- A name is first declared by a statement that binds it, for writing, where nothing in scope does.
structure Site.Introduces (site : Site) (name : String) : Prop where
  free : site.context.table.symbol? name = none
  undeclared : roleOf site.context.declared name = none
  bound : ∃ symbol, (site.context.after site.statement).table.symbol? name = some symbol ∧
    symbol.access = .readWrite

theorem writable_of_access {context : Context} (mirrors : context.Mirrors) {name : String}
    {symbol : Symbol} (found : context.table.symbol? name = some symbol)
    (access : symbol.access = .readWrite) : context.Writable name := by
  have same := mirrors name
  rw [found, Option.map_some, access] at same
  obtain ⟨role, known, writable⟩ := Option.map_eq_some_iff.mp same.symm
  refine ⟨⟨symbol, found, access⟩, role, known, ?_, ?_, ?_⟩ <;> rintro rfl <;> cases writable

theorem underlying_writable {context : Context} (mirrors : context.Mirrors)
    {target : Expr Node} {name : Name Node} (underneath : target.underlying? = some name)
    (clean : (target.infer context.table .write).log.errors = []) :
    context.Writable name.text := by
  rw [infer_write] at clean
  obtain ⟨allowed, read⟩ := bind_clean.mp clean
  obtain ⟨symbol, found⟩ := underlying_bound underneath read
  apply writable_of_access mirrors found
  rw [errors_reportAll] at allowed
  simp only [Expr.denials] at allowed
  rw [underneath] at allowed
  simp only [Name.denials] at allowed
  rw [found] at allowed
  cases access : symbol.access with
  | readWrite => rfl
  | read =>
      dsimp only at allowed
      rw [if_pos access] at allowed
      exact absurd allowed (List.cons_ne_nil _ _)

theorem targets_clean {table : SymbolTable} {span : Span} {targets : List (Expr Node)}
    {value : Expr Node} (clean : (checkAssignment table span targets value).log.errors = []) :
    ∀ target ∈ targets, (target.infer table target.targetMode).log.errors = [] := by
  obtain ⟨checked, _⟩ := bind_clean.mp clean
  obtain ⟨_, later⟩ := bind_clean.mp checked
  obtain ⟨each, _⟩ := bind_clean.mp later
  rw [errors_mapM, List.flatMap_eq_nil_iff] at each
  exact fun target member => (bind_clean.mp (each target member)).1

theorem Site.Faultless.introduces {site : Site} (faultless : site.Faultless) {name : Name Node}
    (member : .ident name ∈ site.statement.targets)
    (free : site.context.table.symbol? name.text = none) : site.Introduces name.text := by
  obtain ⟨context, statement⟩ := site
  have undeclared := (faultless.mirrors.bound_iff name.text).mp free
  refine ⟨free, undeclared, ?_⟩
  have same := faultless.mirrors.after statement faultless.clean name.text
  have role : roleOf (context.after statement).declared name.text = some .target := by
    cases statement with
    | assign node targets value =>
        have listed : name.text ∈ targets.flatMap Expr.declares :=
          List.mem_flatMap.mpr ⟨.ident name, member, List.mem_singleton.mpr rfl⟩
        have after := role_assigning_all context.declared targets name.text
        rw [undeclared, if_pos listed] at after
        exact after
    | _ => exact (nomatch member)
  rw [role] at same
  exact Option.map_eq_some_iff.mp same

theorem Site.Faultless.target {site : Site} (faultless : site.Faultless) {target : Expr Node}
    (member : target ∈ site.statement.targets) {name : Name Node}
    (underneath : target.underlying? = some name) :
    site.context.Writable name.text ∨ target = .ident name ∧ site.Introduces name.text := by
  have clean : (target.infer site.context.table target.targetMode).log.errors = [] := by
    obtain ⟨context, statement⟩ := site
    cases statement with
    | assign node targets value => exact targets_clean faultless.clean target member
    | _ => exact (nomatch member)
  simp only [Expr.targetMode] at clean
  cases bare : target.ident? with
  | none =>
      rw [bare] at clean
      exact Or.inl (underlying_writable faultless.mirrors underneath clean)
  | some found =>
      rw [bare] at clean
      cases ident_of_bare bare
      cases Option.some.inj underneath
      cases bound : site.context.table.symbol? name.text with
      | none => exact Or.inr ⟨rfl, faultless.introduces member bound⟩
      | some symbol =>
          have known : (Expr.ident name).isUnbound site.context.table = false := by
            simp [Expr.isUnbound, Expr.bare, Expr.ident?, bound]
          dsimp only [Option.isSome_some] at clean
          rw [if_pos rfl, infer_define, known] at clean
          exact Or.inl (underlying_writable faultless.mirrors underneath clean)

theorem infer_placeless (table : SymbolTable) {target : Expr Node}
    (placeless : target.underlying? = none) :
    target.infer table target.targetMode = target.infer table .read := by
  have compound : target.ident? = none := by
    cases target with
    | ident name => exact (nomatch placeless)
    | _ => rfl
  simp only [Expr.targetMode]
  rw [compound, Option.isSome_none, if_neg Bool.false_ne_true, infer_write]
  simp only [Expr.denials]
  rw [placeless]
  rfl

-- Whatever variable lies underneath a target is no constant, no loop counter and no parameter that
-- is not `inout`. Targets that stand for no place are checked like any other expression.
theorem assignments_write_writable (program : Program Node) (intrinsics : Bool)
    (clean : (program.run intrinsics).log.errors = []) :
    ∀ site ∈ program.sites intrinsics, ∀ target ∈ site.statement.targets,
      match target.underlying? with
      | none =>
          target.infer site.context.table target.targetMode =
            target.infer site.context.table .read
      | some name =>
          site.context.Writable name.text ∨
            target = .ident name ∧ site.Introduces name.text := by
  intro site reached target member
  have faultless := run_sites_faultless program intrinsics clean site reached
  cases underneath : target.underlying? with
  | none => exact infer_placeless site.context.table underneath
  | some name => exact faultless.target member underneath

theorem ledger_writes_writable :
    (ledger.run true).log.errors = [] ∧
      (((ledger.sites true).flatMap (·.statement.targets)).filterMap Expr.underlying?).map
        Name.text = ["rest", "total"] ∧
      ∀ site ∈ ledger.sites true, ∀ target ∈ site.statement.targets,
        match target.underlying? with
        | none =>
            target.infer site.context.table target.targetMode =
              target.infer site.context.table .read
        | some name =>
            site.context.Writable name.text ∨
              target = .ident name ∧ site.Introduces name.text := by
  have clean : (ledger.run true).log.errors = [] := by decide +kernel
  have names : (((ledger.sites true).flatMap (·.statement.targets)).filterMap
      Expr.underlying?).map Name.text = ["rest", "total"] := by
    decide +kernel
  exact ⟨clean, names, assignments_write_writable ledger true clean⟩

def negatedTarget : Program Node :=
  let name (text : String) : Name Place := ⟨none, text⟩
  Program.numbered 0 ⟨none,
    [.routine ⟨none, .procedure, name "main", [], [],
      ⟨none,
        [.constant ⟨none, name "c", .scalar none .int, some (.int none 1)⟩,
          .assign none [.unary none .neg (.ident (name "c"))] (.int none 2)]⟩⟩]⟩

-- Nothing is reported, although the target is no variable.
theorem negated_constant_assigned :
    (negatedTarget.run false).log.errors = [] ∧
      ((negatedTarget.sites false).flatMap (·.statement.targets)).map
        (·.underlying?.isSome) = [false] := by
  decide +kernel

end TensorLang
