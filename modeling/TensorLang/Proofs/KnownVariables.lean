import TensorLang.Proofs.Entries
import TensorLang.Proofs.SoundExprs

set_option autoImplicit false

namespace TensorLang

open Logged

inductive Ty.Over (known : Var → Prop) : Ty → Prop where
  | tensor (shape : TensorType Var) (regular : shape.Regular known) : (Ty.tensor shape).Over known
  | set (member : Ty) (endpoints : List Var) (within : member.Over known)
      (ends : ∀ var ∈ endpoints, known var) : (Ty.set member endpoints).Over known
  | tuple (member : Ty) (length : Nat) (within : member.Over known) :
      (Ty.tuple member length).Over known
  | element (record : Element) (fields : ∀ field ∈ record.fields, field.type.Over known) :
      (Ty.element record).Over known

def Outcome.Over (known : Var → Prop) : Outcome → Prop :=
  IfKnown fun types => ∀ type ∈ types, type.Over known

structure SymbolTable.Over (known : Var → Prop) (table : SymbolTable) : Prop where
  symbols : ∀ scope ∈ table.scopes, ∀ symbol ∈ scope.symbols,
    known symbol.var ∧ IfKnown (·.Over known) symbol.var.type?
  routines : ∀ routine ∈ table.routines, ∀ var ∈ routine.parameters ++ routine.results,
    IfKnown (·.Over known) var.type?
  elements : ∀ record ∈ table.elements, (Ty.element record).Over known

variable {known : Var → Prop} {table : SymbolTable}

namespace Ty

theorem over_tensor {shape : TensorType Var} :
    (Ty.tensor shape).Over known ↔ shape.Regular known := by
  constructor
  · intro within
    cases within with
    | tensor _ regular => exact regular
  · exact .tensor shape

theorem over_ofScalar (component : Scalar) : (Ty.ofScalar component).Over known :=
  .tensor _ (TensorType.scalar_regular component)

end Ty

namespace Outcome

theorem over_one {type : Ty} (within : type.Over known) : (one type).Over known := by
  refine ifKnown_some fun other member => ?_
  rw [List.mem_singleton.mp member]
  exact within

theorem over_ofType {type? : Option Ty} (within : IfKnown (·.Over known) type?) :
    (ofType? type?).Over known := by
  cases type? with
  | none => exact ifKnown_none
  | some type => exact over_one (within type rfl)

theorem over_tensor {shape : TensorType Var} (regular : shape.Regular known) :
    (tensor shape).Over known := over_one (.tensor shape regular)

theorem over_ofTensor {shape? : Option (TensorType Var)}
    (regular : IfKnown (TensorType.Regular known) shape?) : (ofTensor? shape?).Over known := by
  cases shape? with
  | none => exact ifKnown_none
  | some shape => exact over_tensor (regular shape rfl)

theorem Over.single {type : Ty} {outcome : Outcome} (within : outcome.Over known)
    (typed : outcome = some [type]) : type.Over known :=
  within [type] typed type (List.mem_singleton_self type)

end Outcome

namespace SymbolTable.Over

theorem symbol (within : table.Over known) {name : String} {symbol : Symbol}
    (found : table.symbol? name = some symbol) :
    known symbol.var ∧ IfKnown (·.Over known) symbol.var.type? := by
  obtain ⟨scope, live, member⟩ := symbol?_mem found
  exact within.symbols scope live symbol member

theorem element (within : table.Over known) {name : String} {record : Element}
    (found : table.element? name = some record) : (Ty.element record).Over known :=
  within.elements record (List.mem_of_find?_eq_some found)

theorem results (within : table.Over known) {name : String} {routine : Routine}
    (found : table.routine? name = some routine) :
    ∀ type ∈ routine.resultTypes, type.Over known := by
  intro type member
  obtain ⟨var, varMember, typed⟩ := List.mem_filterMap.mp member
  exact within.routines routine (List.mem_of_find?_eq_some found) var
    (List.mem_append_right _ varMember) type typed

theorem holds (within : table.Over known) {type : Ty} (held : table.Holds type) :
    type.Over known := by
  cases held with
  | symbol scope live symbol member type typed =>
      exact (within.symbols scope live symbol member).2 type typed
  | parameter routine listed var member type typed =>
      exact within.routines routine listed var (List.mem_append_left _ member) type typed
  | result routine listed var member type typed =>
      exact within.routines routine listed var (List.mem_append_right _ member) type typed
  | field record listed field member =>
      cases within.elements record listed with
      | element _ fields => exact fields field member

end SymbolTable.Over

theorem resolve_element_over (within : table.Over known) (name : Name Node) :
    IfKnown (·.Over known) (name.resolveElement table).value := by
  rw [name.resolve_element_promised]
  cases found : table.element? name.text with
  | none => exact ifKnown_none
  | some record => exact ifKnown_some (within.element found)

theorem resolve_set_over (within : table.Over known) (wrong : Ty → Mismatch) (name : Name Node) :
    IfKnown known (name.resolveSet table wrong).value := by
  rw [name.resolve_set_promised]
  cases found : table.symbol? name.text with
  | none => exact ifKnown_none
  | some symbol =>
      dsimp only
      split
      · exact ifKnown_none
      · exact ifKnown_some (within.symbol found).1
      · exact ifKnown_none

theorem domain_over (within : table.Over known) (domain : Domain Node) :
    IfKnown (fun index => ∀ var, index = .set var → known var) (domain.resolve table).value := by
  cases domain with
  | range node size => exact ifKnown_some fun var same => nomatch same
  | dynamic node => exact ifKnown_some fun var same => nomatch same
  | set name =>
      intro index resolved var same
      obtain ⟨found, set, rfl⟩ := Option.map_eq_some_iff.mp resolved
      exact IndexSet.set.inj same ▸ resolve_set_over within _ name found set

theorem tensor_of_over (span blockSpan : Span) (column : Bool) {leading : List (IndexSet Var)}
    {block : Ty} (sets : ∀ index ∈ leading, ∀ var, index = .set var → known var)
    (within : block.Over known) :
    IfKnown (·.Over known) (block.tensorOf span blockSpan column leading).value := by
  cases within with
  | set | tuple | element => exact ifKnown_none
  | tensor shape regular =>
      simp only [Ty.tensorOf]
      cases blocks : TensorType.ofBlocks? leading shape with
      | none => exact ifKnown_none
      | some whole =>
          have wholeRegular : whole.Regular known :=
            TensorType.ofBlocks_regular (fun var member => sets _ member var rfl) regular blocks
          simp only [TensorType.oriented]
          split
          · exact ifKnown_some (.tensor whole wholeRegular)
          · split
            · rename_i vector
              exact ifKnown_some (.tensor _
                (wholeRegular.of_subset whole.axes true (fun _ => vector) fun _ member => member))
            · exact ifKnown_none

theorem resolve_over (within : table.Over known) (written : TypeExpr Node) :
    IfKnown (·.Over known) (written.resolve table).value := by
  induction written with
  | scalar node component => exact ifKnown_some (Ty.over_ofScalar component)
  | element name => exact resolve_element_over within name
  | set node member endpoints =>
      have memberOver := resolve_element_over within member
      have each : ∀ var? ∈ (endpoints.mapM (Name.resolveEndpoint table)).value,
          IfKnown known var? := by
        rw [value_mapM]
        exact List.forall_mem_map.mpr fun name _ => resolve_set_over within .endpoint name
      simp only [TypeExpr.resolve, value_bind]
      split
      · rename_i element vars found present
        exact ifKnown_some (.set element vars (memberOver element found)
          (ifKnown_allPresent each present))
      · exact ifKnown_none
  | tuple node member lengthNode length =>
      have memberOver := resolve_element_over within member
      simp only [TypeExpr.resolve, value_bind]
      split
      · rename_i count read
        intro type known
        obtain ⟨element, found, rfl⟩ := Option.map_eq_some_iff.mp known
        exact .tuple element count (memberOver element found)
      · exact ifKnown_none
  | tensor node domains inner column ih =>
      have each : ∀ index? ∈ (domains.mapM (Domain.resolve table)).value,
          IfKnown (fun index => ∀ var, index = .set var → known var) index? := by
        rw [value_mapM]
        exact List.forall_mem_map.mpr fun domain _ => domain_over within domain
      simp only [TypeExpr.resolve, value_bind]
      split
      · rename_i block leading resolved present
        exact tensor_of_over _ _ column (ifKnown_allPresent each present) (ih block resolved)
      · exact ifKnown_none

theorem numeric_over {types? : Outcome} (within : types?.Over known) :
    IfKnown (TensorType.Regular known) (types?.bind numericTensor?) := by
  intro shape found
  obtain ⟨types, typed, numeric⟩ := Option.bind_eq_some_iff.mp found
  rw [numeric_tensor_some numeric] at typed
  exact Ty.over_tensor.mp (Outcome.Over.single within typed)

theorem combine_over (arithmetic : Arithmetic) (span : Span) {left right : TensorType Var}
    (leftRegular : left.Regular known) (rightRegular : right.Regular known) :
    (arithmetic.combine span left right).value.Over known := by
  cases arithmetic with
  | elementwise =>
      simp only [Arithmetic.combine]
      cases typed : left.elementwise? right with
      | none => exact ifKnown_none
      | some shape =>
          exact Outcome.over_tensor (TensorType.elementwise_regular leftRegular rightRegular typed)
  | product =>
      rw [combine_product_promised]
      exact Outcome.over_ofTensor fun shape typed =>
        TensorType.product_regular leftRegular rightRegular typed
  | quotient =>
      simp only [Arithmetic.combine]
      cases typed : left.quotient right with
      | error fault => exact ifKnown_none
      | ok shape =>
          exact Outcome.over_tensor (TensorType.quotient_regular leftRegular rightRegular typed)

theorem arithmetic_over (arithmetic : Arithmetic) (span : Span) {left right : Operand}
    (leftOver : left.types?.Over known) (rightOver : right.types?.Over known) :
    (arithmetic.check span left right).value.Over known := by
  have leftRegular := numeric_over leftOver
  have rightRegular := numeric_over rightOver
  simp only [Arithmetic.check, value_bind]
  split
  · rename_i leftShape rightShape leftFound rightFound
    exact combine_over arithmetic span (leftRegular leftShape leftFound)
      (rightRegular rightShape rightFound)
  · exact ifKnown_none

theorem binary_over (operator : BinaryOp) (span : Span) {left right : Operand}
    (leftOver : left.types?.Over known) (rightOver : right.types?.Over known) :
    (operator.check span left right).value.Over known := by
  cases operator with
  | or | and | xor => exact Outcome.over_one (Ty.over_ofScalar .bool)
  | add | sub | elementMul | elementDiv =>
      exact arithmetic_over .elementwise span leftOver rightOver
  | mul => exact arithmetic_over .product span leftOver rightOver
  | div => exact arithmetic_over .quotient span leftOver rightOver
  | power => exact ifKnown_none

theorem unary_over (operator : UnaryOp) {operand : Operand} (within : operand.types?.Over known) :
    (operator.check operand).value.Over known := by
  cases operator with
  | not => exact Outcome.over_one (Ty.over_ofScalar .bool)
  | neg => exact fun types filtered => within types (Option.filter_eq_some_iff.mp filtered).1

theorem transpose_over {operand : Operand} (within : operand.types?.Over known) :
    (checkTranspose operand).value.Over known := by
  rw [check_transpose_promised]
  refine Outcome.over_ofTensor fun shape turned => ?_
  obtain ⟨types, typed, transposed⟩ := Option.bind_eq_some_iff.mp turned
  obtain ⟨whole, rfl, swapped⟩ := transposed_types_some transposed
  exact TensorType.transposed_regular (Ty.over_tensor.mp (Outcome.Over.single within typed)) swapped

theorem call_over (within : table.Over known) (span : Span) (name : Name Node)
    (arguments : List Visit) : (checkCall table span name arguments).value.Over known := by
  simp only [checkCall, value_bind, name.resolve_routine_promised]
  cases found : table.routine? name.text with
  | none => exact ifKnown_none
  | some routine => exact ifKnown_some (within.results found)

theorem map_over (within : table.Over known) (span : Span) (name : Name Node)
    (partials : List Visit) (target : Name Node) :
    (checkMap table span name partials target).value.Over known := by
  simp only [checkMap, value_bind, name.resolve_routine_promised]
  cases found : table.routine? name.text with
  | none => exact ifKnown_none
  | some routine =>
      cases (target.resolveSet table fun _ => .mapTarget).value <;>
        exact ifKnown_some (within.results found)

theorem tensor_read_over (span : Span) {tensor : TensorType Var} (regular : tensor.Regular known)
    (positions : List Position) : (tensor.checkRead span positions).value.Over known := by
  simp only [TensorType.checkRead]
  split
  · refine Outcome.over_tensor (TensorType.readKeeping_regular regular _ _ fun axis member => ?_)
    obtain ⟨axis?, listed, kept⟩ := List.mem_filterMap.mp member
    rw [value_mapM] at listed
    obtain ⟨⟨position, whole, leading⟩, step, rfl⟩ := List.mem_map.mp listed
    cases position with
    | slice span =>
        cases kept
        exact (List.of_mem_zip (List.of_mem_zip step).2).1
    | «at» visit => cases kept
  · exact ifKnown_none

theorem read_over (span : Span) {base : Operand} (within : base.types?.Over known)
    (positions : List Position) : (checkRead span base positions).value.Over known := by
  simp only [checkRead]
  split
  · exact ifKnown_none
  · rename_i shape typed
    exact tensor_read_over span (Ty.over_tensor.mp (Outcome.Over.single within typed)) positions
  · rename_i member length typed
    cases Outcome.Over.single within typed with
    | tuple _ _ memberOver => exact Outcome.over_one memberOver
  · exact ifKnown_none
  · exact ifKnown_none

theorem field_found {record : Element} {name : Name Node} {field : Field}
    (found : (record.checkField name).value = some field) : field ∈ record.fields := by
  simp only [Element.checkField] at found
  split at found
  · rename_i listed
    cases found
    exact List.mem_of_find?_eq_some listed
  · cases found

theorem leading_set_known (within : table.Over known) {set? : Option (Name Node)}
    {leading : IndexSet Var} (found : (leadingSet table set?).value = some leading) :
    ∀ var, leading = .set var → known var := by
  intro var same
  cases set? with
  | none =>
      cases found
      cases same
  | some name =>
      simp only [leadingSet, SymbolTable.symbol, value_bind] at found
      cases bound : table.symbol? name.text with
      | none =>
          rw [bound] at found
          cases found
      | some symbol =>
          rw [bound] at found
          cases found
          exact IndexSet.set.inj same ▸ (within.symbol bound).1

theorem of_members_over (within : table.Over known) (span : Span) (set? : Option (Name Node))
    {field : Field} (fieldOver : field.type.Over known) :
    (field.ofMembers table span set?).value.Over known := by
  simp only [Field.ofMembers]
  split
  · rename_i shape vector
    refine Outcome.over_ofTensor fun whole built => ?_
    obtain ⟨leading, found, rfl⟩ := Option.map_eq_some_iff.mp built
    rw [tensor_of_view (Option.filter_eq_some_iff.mp vector).1] at fieldOver
    exact TensorType.overSet_regular (leading_set_known within found) (Ty.over_tensor.mp fieldOver)
  · exact ifKnown_none

theorem field_over (within : table.Over known) (span : Span) {base : Operand}
    (baseOver : base.types?.Over known) (set? : Option (Name Node)) (name : Name Node) :
    (checkField table span base set? name).value.Over known := by
  simp only [checkField]
  split
  · exact ifKnown_none
  · rename_i record typed
    cases Outcome.Over.single baseOver typed with
    | element _ fields =>
        refine Outcome.over_ofType fun type found => ?_
        obtain ⟨field, listed, rfl⟩ := Option.map_eq_some_iff.mp found
        exact fields field (field_found listed)
  · rename_i member endpoints typed
    cases Outcome.Over.single baseOver typed with
    | set _ _ memberOver ends =>
        cases memberOver with
        | tensor | set | tuple => exact ifKnown_none
        | element record fields =>
            change Outcome.Over known (promised (.ok record) >>= _).value
            rw [promised_ok, pure_bind]
            dsimp only
            rw [value_bind]
            split
            · exact ifKnown_none
            · rename_i field found
              exact of_members_over within span set? (fields field (field_found found))
  · exact ifKnown_none
  · exact ifKnown_none

theorem dense_over (literal : Dense Node) : literal.infer.value.Over known := by
  simp only [Dense.infer]
  cases literal.shape with
  | error fault => exact ifKnown_none
  | ok shape =>
      dsimp only
      by_cases refused : (literal.isTransposed && shape.sizes.length != 1) = true
      · rw [if_pos refused]
        exact ifKnown_none
      · rw [if_neg refused]
        refine Outcome.over_tensor (shape_regular shape _ fun transposed => ?_)
        simpa [transposed] using refused

theorem name_over (within : table.Over known) (mode : Mode) (name : Name Node) :
    (name.infer table mode).value.Over known := by
  rw [name_infer_value]
  cases found : table.symbol? name.text with
  | none => exact ifKnown_none
  | some symbol => exact Outcome.over_ofType (within.symbol found).2

theorem infer_over (within : table.Over known) (mode : Mode) (expression : Expr Node) :
    (expression.infer table mode).value.Over known := by
  match expression with
  | .binary node operator left right =>
      rw [Expr.infer]
      exact binary_over operator node.span (infer_over within .read left)
        (infer_over within .read right)
  | .compare node operands operators =>
      rw [Expr.infer]
      exact Outcome.over_one (Ty.over_ofScalar .bool)
  | .unary node operator operand =>
      rw [Expr.infer]
      exact unary_over operator (infer_over within .read operand)
  | .transpose node operand =>
      rw [Expr.infer]
      exact transpose_over (infer_over within .read operand)
  | .call node routine arguments =>
      rw [Expr.infer]
      exact call_over within node.span routine _
  | .map node routine partials target =>
      rw [Expr.infer]
      exact map_over within node.span routine _ target
  | .read node base indices =>
      rw [Expr.infer]
      exact read_over node.span (infer_over within mode.ofBase base) _
  | .field node base name =>
      rw [Expr.infer]
      exact field_over within node.span (infer_over within mode.ofBase base) _ name
  | .paren node inner =>
      rw [Expr.infer]
      exact infer_over within mode inner
  | .int .. => exact Outcome.over_one (Ty.over_ofScalar .int)
  | .float .. => exact Outcome.over_one (Ty.over_ofScalar .float)
  | .bool .. => exact Outcome.over_one (Ty.over_ofScalar .bool)
  | .dense literal => exact dense_over literal
  | .ident name => exact name_over within mode name

-- The entry records the types that some expression has in the table.
def Entry.Arises (table : SymbolTable) (entry : Entry) : Prop :=
  ∃ (inner : Expr Node) (mode : Mode), (inner.infer table mode).value = some entry.types

theorem recorded_arise {expression : Expr Node} {mode : Mode} {node : Node}
    {check : Logged Outcome} (records : expression.infer table mode = recorded node check)
    (inner : ∀ entry ∈ check.log.entries, entry.Arises table) :
    ∀ entry ∈ (expression.infer table mode).log.entries, entry.Arises table := by
  intro entry made
  have types := congrArg Logged.value records
  change _ = check.value at types
  rw [records] at made
  simp only [recorded, log_bind, Log.entries_append, entries_record, log_pure, Log.entries_empty,
    List.append_nil] at made
  rcases List.mem_append.mp made with before | last
  · exact inner entry before
  · obtain ⟨found, outcome, rfl⟩ := List.mem_map.mp last
    exact ⟨expression, mode, types.trans (Option.mem_toList.mp outcome)⟩

theorem silent_arise {α β : Type} {first : Logged α} {next : α → Logged β}
    (inner : ∀ entry ∈ first.log.entries, entry.Arises table)
    (silent : ∀ value, (next value).log.entries = []) :
    ∀ entry ∈ (first >>= next).log.entries, entry.Arises table := by
  rw [log_bind, Log.entries_append, silent, List.append_nil]
  exact inner

theorem visited_arise {log : Log} {visits : List Visit}
    (visited : log.entries = visits.flatMap fun visit => visit.check.log.entries)
    (each : ∀ visit ∈ visits, ∀ entry ∈ visit.check.log.entries, entry.Arises table) :
    ∀ entry ∈ log.entries, entry.Arises table := by
  intro entry made
  rw [visited] at made
  obtain ⟨visit, member, made⟩ := List.mem_flatMap.mp made
  exact each visit member entry made

theorem read_arise (span : Span) (base : Operand) {positions : List Position}
    (each : ∀ visit, Position.at visit ∈ positions →
      ∀ entry ∈ visit.check.log.entries, entry.Arises table) :
    ∀ entry ∈ (checkRead span base positions).log.entries, entry.Arises table := by
  intro entry made
  have visited := (Log.View.entries.part_read_sublist span base positions).subset made
  obtain ⟨position, member, made⟩ := List.mem_flatMap.mp visited
  cases position with
  | slice span => cases made
  | «at» visit => exact each visit member entry made

mutual
theorem infer_entries_arise (table : SymbolTable) (mode : Mode) (expression : Expr Node) :
    ∀ entry ∈ (expression.infer table mode).log.entries, entry.Arises table := by
  cases expression with
  | binary node operator left right =>
      refine recorded_arise (by rw [Expr.infer]) ?_
      rw [log_bind, Log.entries_append]
      refine List.forall_mem_append.mpr ⟨infer_entries_arise table .read left, ?_⟩
      exact silent_arise (infer_entries_arise table .read right) fun types =>
        Log.View.entries.part_binary operator node.span _ ⟨right.span, types⟩
  | compare node operands operators =>
      refine recorded_arise (by rw [Expr.infer]) ?_
      exact visited_arise (Log.View.entries.part_comparison _) (visits_entries_arise table operands)
  | unary node operator operand =>
      refine recorded_arise (by rw [Expr.infer]) ?_
      exact silent_arise (infer_entries_arise table .read operand) fun types =>
        Log.View.entries.part_unary operator ⟨operand.span, types⟩
  | transpose node operand =>
      refine recorded_arise (by rw [Expr.infer]) ?_
      exact silent_arise (infer_entries_arise table .read operand) fun types =>
        Log.View.entries.part_transpose ⟨operand.span, types⟩
  | call node routine arguments =>
      refine recorded_arise (by rw [Expr.infer]) ?_
      exact visited_arise (Log.View.entries.part_call ..) (visits_entries_arise table arguments)
  | map node routine partials target =>
      refine recorded_arise (by rw [Expr.infer]) ?_
      exact visited_arise (Log.View.entries.part_map ..) (visits_entries_arise table partials)
  | read node base indices =>
      refine recorded_arise (by rw [Expr.infer]) ?_
      rw [log_bind, Log.entries_append]
      exact List.forall_mem_append.mpr ⟨infer_entries_arise table mode.ofBase base,
        read_arise node.span _ (positions_entries_arise table indices)⟩
  | field node base name =>
      refine recorded_arise (by rw [Expr.infer]) ?_
      exact silent_arise (infer_entries_arise table mode.ofBase base) fun types =>
        Log.View.entries.part_field table node.span ⟨base.span, types⟩ _ name
  | paren node inner =>
      refine recorded_arise (by rw [Expr.infer]) ?_
      exact infer_entries_arise table mode inner
  | int node value | float node value | bool node value =>
      exact recorded_arise rfl fun _ made => nomatch made
  | dense literal =>
      refine recorded_arise (by rw [Expr.infer]) fun entry made => ?_
      rw [show literal.infer.log.entries = [] from Log.View.entries.part_dense literal] at made
      cases made
  | ident name =>
      refine recorded_arise (by rw [Expr.infer]) fun entry made => ?_
      rw [name_infer_entries] at made
      cases made
theorem visits_entries_arise (table : SymbolTable) (operands : List (Expr Node)) :
    ∀ visit ∈ visits table operands,
      ∀ entry ∈ visit.check.log.entries, entry.Arises table := by
  cases operands with
  | nil => exact fun _ member => absurd member List.not_mem_nil
  | cons operand rest =>
      rw [visits]
      exact List.forall_mem_cons.mpr
        ⟨infer_entries_arise table .read operand, visits_entries_arise table rest⟩
theorem positions_entries_arise (table : SymbolTable) (indices : List (Index Node)) :
    ∀ visit, Position.at visit ∈ positions table indices →
      ∀ entry ∈ visit.check.log.entries, entry.Arises table := by
  cases indices with
  | nil => exact fun _ member => absurd member List.not_mem_nil
  | cons index rest =>
      intro visit member
      cases index with
      | slice node =>
          rcases List.mem_cons.mp member with same | later
          · cases same
          · exact positions_entries_arise table rest visit later
      | «at» index =>
          rcases List.mem_cons.mp member with same | later
          · rw [Position.at.inj same]
            exact infer_entries_arise table .read index
          · exact positions_entries_arise table rest visit later
end

theorem Entry.Arises.within {entry : Entry} (arises : entry.Arises table)
    (within : table.Over known) :
    ∀ type ∈ entry.types, type.Over known := by
  obtain ⟨inner, mode, outcome⟩ := arises
  exact infer_over within mode inner entry.types outcome

end TensorLang
