import TensorLang.Tree.Construction

set_option autoImplicit false

namespace TensorLang

-- The identities that are handed out one after another, when the cursor has come to `first`.
def issued (first count : Nat) : List Nat := (List.range' first count).map (· % UInt32.size)

theorem issued_append (first count more : Nat) :
    issued first count ++ issued (first + count) more = issued first (count + more) := by
  simp only [issued, ← List.map_append, List.range'_append_1]

theorem issued_within {first count : Nat} (fits : first + count ≤ UInt32.size) :
    issued first count = List.range' first count := by
  have small : ∀ id ∈ List.range' first count, id % UInt32.size = id := by
    intro id listed
    have bounds := List.mem_range'_1.mp listed
    exact Nat.mod_eq_of_lt (by omega)
  rw [issued, List.map_congr_left small, List.map_id']

theorem stampAll_names (names : List (Name Place)) (cursor : Cursor) :
    ((Name.stampAll names cursor).1.map fun name => name.node.id) =
        issued cursor.next names.length ∧
      (Name.stampAll names cursor).2.next = cursor.next + names.length := by
  induction names generalizing cursor with
  | nil => exact ⟨rfl, rfl⟩
  | cons name names held =>
      obtain ⟨ids, next⟩ := held (name.stamp cursor).2
      rw [List.length_cons, Nat.add_comm names.length, ← issued_append, ← Nat.add_assoc]
      exact ⟨congrArg (cursor.id :: ·) ids, next⟩

theorem stampAll_fields (fields : List FieldDraft) (cursor : Cursor) :
    (FieldDraft.stampAll fields cursor).1.flatMap FieldDecl.leads =
        issued cursor.next (2 * fields.length) ∧
      (FieldDraft.stampAll fields cursor).2.next = cursor.next + 2 * fields.length := by
  induction fields generalizing cursor with
  | nil => exact ⟨rfl, rfl⟩
  | cons field fields held =>
      obtain ⟨ids, next⟩ := held (field.name.stamp (field.node.stamp cursor).2).2
      rw [List.length_cons, Nat.mul_succ, Nat.add_comm _ 2, ← issued_append, ← Nat.add_assoc]
      exact ⟨congrArg ([_, _] ++ ·) ids, next⟩

theorem call_own (call : Call) (cursor : Cursor) : ∃ count,
    (call.run cursor).1.own = issued cursor.next count ∧
      (call.run cursor).2.next = cursor.next + count := by
  match call with
  | .index .. | .dense .. => exact ⟨0, rfl, rfl⟩
  | .call .. | .field .. | .variable .. | .constant .. | .loop .. | .branch _ _ _ none
  | .external .. | .parameter .. | .result .. | .globalConstant .. | .test .. =>
      exact ⟨2, rfl, rfl⟩
  | .map .. | .tuple .. | .branch _ _ _ (some _) | .routine .. => exact ⟨3, rfl, rfl⟩
  | .set member endpoints =>
      obtain ⟨ids, next⟩ := stampAll_names endpoints (member.stamp (Builder.node cursor).2).2
      refine ⟨2 + endpoints.length, ?_, next.trans (Nat.add_assoc _ 2 _)⟩
      rw [← issued_append]
      exact congrArg ([_, _] ++ ·) ids
  | .element name fields =>
      obtain ⟨ids, next⟩ := stampAll_fields fields cursor
      refine ⟨2 * fields.length + 2, ?_, congrArg (· + 2) next⟩
      rw [← issued_append, ← ids, ← next]
      exact List.append_assoc ..
  | .forRange .. => exact ⟨4, rfl, rfl⟩
  | .forSet .. => exact ⟨5, rfl, rfl⟩
  | .identifier .. | .ints .. | .floats .. | .nested .. | .binary .. | .compare .. | .unary ..
  | .transpose .. | .read .. | .slice | .paren .. | .int .. | .float .. | .bool .. | .ident ..
  | .range .. | .setDomain .. | .dynamic | .scalar .. | .tensor .. | .elementType .. | .block ..
  | .print .. | .assign .. | .eval .. | .sourceFile .. => exact ⟨1, rfl, rfl⟩

theorem stampAll_types (fields : List FieldDraft) (cursor : Cursor) :
    (FieldDraft.stampAll fields cursor).1.map FieldDecl.type = fields.map FieldDraft.type := by
  induction fields generalizing cursor with
  | nil => rfl
  | cons field fields held =>
      exact congrArg (field.type :: ·) (held (field.name.stamp (field.node.stamp cursor).2).2)

theorem call_parts (call : Call) (cursor : Cursor) :
    (call.run cursor).1.parts = call.arguments := by
  cases call with
  | branch condition thenPlace thenBody elseBody => cases elseBody <;> rfl
  | element name fields =>
      have types := congrArg (List.map Item.type) (stampAll_types fields cursor)
      rw [List.map_map, List.map_map] at types
      exact types
  | _ => rfl

def occurrences (id : Nat) (items : List Item) : Nat := (items.flatMap Item.ids).count id

@[simp] theorem occurrences_nil (id : Nat) : occurrences id [] = 0 := rfl

@[simp] theorem occurrences_cons (id : Nat) (item : Item) (items : List Item) :
    occurrences id (item :: items) = item.ids.count id + occurrences id items := by
  simp [occurrences]

@[simp] theorem occurrences_append (id : Nat) (items more : List Item) :
    occurrences id (items ++ more) = occurrences id items + occurrences id more := by
  simp [occurrences]

@[simp] theorem occurrences_exprs (id : Nat) (expressions : List (Expr Node)) :
    occurrences id (expressions.map .expr) =
      (exprIds expressions).count id + (exprPartIds expressions).count id := by
  induction expressions with
  | nil => rfl
  | cons expression rest held =>
      simp only [List.map_cons, occurrences_cons, held, Item.ids, exprIds, exprPartIds,
        List.count_append]
      omega

@[simp] theorem occurrences_value (id : Nat) (value : Option (Expr Node)) :
    occurrences id (valueItems value) =
      (valueIds value).count id + (value.elim [] Expr.partIds).count id := by
  cases value with
  | none => rfl
  | some value => simp [valueItems, valueIds, Item.ids]

@[simp] theorem occurrences_indices (id : Nat) (indices : List (Index Node)) :
    occurrences id (indices.map .index) =
      (indexIds indices).count id + (indexPartIds indices).count id := by
  induction indices with
  | nil => rfl
  | cons index rest held =>
      cases index <;>
        simp only [List.map_cons, occurrences_cons, held, Item.ids, indexIds, indexPartIds,
          List.count_append, List.count_cons, List.count_nil] <;>
        omega

@[simp] theorem occurrences_rows (id : Nat) (rows : List (Dense Node)) :
    occurrences id (rows.map .dense) = (denseIds rows).count id := by
  induction rows with
  | nil => rfl
  | cons row rest held =>
      simp only [List.map_cons, occurrences_cons, held, Item.ids, denseIds, List.count_append,
        List.count_cons]
      omega

@[simp] theorem occurrences_stmts (id : Nat) (statements : List (Stmt Node)) :
    occurrences id (statements.map .stmt) =
      (stmtExpressionIds statements).count id + (stmtPartIds statements).count id := by
  induction statements with
  | nil => rfl
  | cons statement rest held =>
      simp only [List.map_cons, occurrences_cons, held, Item.ids, stmtExpressionIds, stmtPartIds,
        List.count_append]
      omega

@[simp] theorem occurrences_domains (id : Nat) (domains : List (Domain Node)) :
    occurrences id (domains.map .domain) = (domains.map Domain.id).count id := by
  induction domains with
  | nil => rfl
  | cons domain rest held => simp [held, Item.ids, List.count_cons, Nat.add_comm]

@[simp] theorem occurrences_parameters (id : Nat) (declarations : List (ParameterDecl Node)) :
    occurrences id (declarations.map .parameter) =
      (declarations.flatMap ParameterDecl.ids).count id := by
  rw [occurrences, List.flatMap_map]
  rfl

@[simp] theorem occurrences_results (id : Nat) (declarations : List (ResultDecl Node)) :
    occurrences id (declarations.map .result) =
      (declarations.flatMap ResultDecl.ids).count id := by
  rw [occurrences, List.flatMap_map]
  rfl

@[simp] theorem occurrences_definitions (id : Nat) (definitions : List (Definition Node)) :
    occurrences id (definitions.map .definition) =
      (definitions.flatMap Definition.expressionIds).count id +
        (definitions.flatMap Definition.partIds).count id := by
  induction definitions with
  | nil => rfl
  | cons definition rest held =>
      simp only [List.map_cons, occurrences_cons, held, Item.ids, List.flatMap_cons,
        List.count_append]
      omega

theorem field_nodes (id : Nat) (fields : List (FieldDecl Node)) :
    (fields.flatMap FieldDecl.ids).count id =
      (fields.flatMap FieldDecl.leads).count id +
        occurrences id (fields.map fun field => .type field.type) := by
  induction fields with
  | nil => rfl
  | cons field rest held =>
      simp only [List.flatMap_cons, List.map_cons, occurrences_cons, held, Item.ids, FieldDecl.ids,
        FieldDecl.leads, List.count_append, List.count_cons, List.count_nil]
      omega

def Item.Whole (item : Item) : Prop :=
  ∀ id, item.ids.count id = item.own.count id + occurrences id item.parts

theorem dense_whole (literal : Dense Node) : (Item.dense literal).Whole := by
  intro id
  cases literal <;> simp [Dense.node, Dense.rowIds, List.count_cons, Nat.add_comm]

theorem expr_whole (expression : Expr Node) : (Item.expr expression).Whole := by
  intro id
  cases expression <;> simp [Expr.node, Expr.ids, Expr.partIds, List.count_cons] <;> omega

theorem type_whole (type : TypeExpr Node) : (Item.type type).Whole := by
  intro id
  cases type with
  | scalar | element | set | tuple => simp [TypeExpr.node, TypeExpr.ids, List.count_cons]
  | tensor =>
      simp [TypeExpr.node, TypeExpr.ids, List.count_cons]
      omega

theorem body_whole (id : Nat) (body : Block Node) :
    body.expressionIds.count id + body.partIds.count id =
      (if body.node.id = id then 1 else 0) + occurrences id (bodyItems body) := by
  cases body
  simp [Block.expressionIds, Block.partIds, bodyItems, List.count_cons]
  omega

theorem declaration_whole (id : Nat) (declaration : Declaration Node) :
    (valueIds declaration.value).count id + declaration.partIds.count id =
      [declaration.node.id, declaration.name.node.id].count id +
        (declaration.type.ids.count id + occurrences id (valueItems declaration.value)) := by
  simp [Declaration.partIds, List.count_cons]
  omega

theorem stmt_whole (statement : Stmt Node) : (Item.stmt statement).Whole := by
  intro id
  match statement with
  | .variable declaration | .constant declaration =>
      simpa [Stmt.node, Stmt.expressionIds, Stmt.partIds] using declaration_whole id declaration
  | .loop _ _ body | .branch _ _ body none | .forRange _ _ _ _ _ body | .forSet _ _ _ _ body =>
      have body := body_whole id body
      simp [Stmt.node, Stmt.expressionIds, Stmt.partIds, List.count_cons]
      omega
  | .branch _ _ thenBlock (some elseBlock) =>
      have thenBody := body_whole id thenBlock
      have elseBody := body_whole id elseBlock
      simp [Stmt.node, Stmt.expressionIds, Stmt.partIds, List.count_cons]
      omega
  | .print .. | .assign .. | .eval .. =>
      simp [Stmt.node, Stmt.expressionIds, Stmt.partIds, List.count_cons]
      omega

theorem definition_whole (definition : Definition Node) : (Item.definition definition).Whole := by
  intro id
  cases definition with
  | element declaration =>
      have fields := field_nodes id declaration.fields
      simp [Definition.node, Definition.expressionIds, Definition.partIds, List.count_cons]
      omega
  | routine declaration =>
      have body := body_whole id declaration.body
      simp [Definition.node, Definition.expressionIds, Definition.partIds, List.count_cons]
      omega
  | constant declaration =>
      simpa [Definition.node, Definition.expressionIds, Definition.partIds]
        using declaration_whole id declaration
  | external declaration =>
      simp [Definition.node, Definition.expressionIds, Definition.partIds, List.count_cons]
      omega
  | test declaration =>
      simp [Definition.node, Definition.expressionIds, Definition.partIds, List.count_cons]
      omega

theorem item_whole (item : Item) : item.Whole := by
  cases item with
  | dense literal => exact dense_whole literal
  | expr expression => exact expr_whole expression
  | type type => exact type_whole type
  | stmt statement => exact stmt_whole statement
  | definition definition => exact definition_whole definition
  | index index => intro id; cases index <;> simp [indexIds, indexPartIds]
  | block body => intro id; simp [body_whole, List.count_cons]
  | identifier name => intro id; simp
  | domain domain => intro id; simp [Domain.id]
  | parameter declaration => intro id; simp [ParameterDecl.ids, List.count_cons]; omega
  | result declaration => intro id; simp [ResultDecl.ids, List.count_cons]; omega
  | program whole => intro id; simp [Program.expressionIds, Program.partIds, List.count_cons]; omega

theorem item_nodes (item : Item) : item.ids.Perm (item.own ++ item.parts.flatMap Item.ids) := by
  refine List.perm_iff_count.mpr fun id => ?_
  rw [List.count_append]
  exact item_whole item id

theorem call_rootless (call : Call) (cursor : Cursor) :
    (call.run cursor).1.root? = none ↔ call.isWrapper := by
  cases call with
  | index | dense => exact iff_of_true rfl rfl
  | _ => exact iff_of_false (fun absent => (nomatch absent)) Bool.false_ne_true

theorem wrapper_idle {call : Call} (wrapper : call.isWrapper) (cursor : Cursor) :
    (call.run cursor).1.own = [] ∧ (call.run cursor).2 = cursor := by
  match call with
  | .index .. | .dense .. => exact ⟨rfl, rfl⟩

theorem consecutive_around {before after : List Nat} {id first count : Nat}
    (whole : before ++ [id] ++ after = List.range' first count) :
    first ≤ id ∧ before ++ [id] = List.range' first (before.length + 1) ∧
      ∀ other ∈ after, id < other := by
  have ordered : (before ++ [id] ++ after).Pairwise (· < ·) :=
    whole ▸ List.pairwise_lt_range'
  refine ⟨?_, ?_, ?_⟩
  · have listed : id ∈ List.range' first count := whole ▸ (by simp)
    exact (List.mem_range'_1.mp listed).1
  · have lengths : before.length + 1 + after.length = count := by
      simpa [Nat.add_assoc, Nat.add_comm 1] using congrArg List.length whole
    rw [← lengths, ← List.range'_append_1] at whole
    exact List.append_inj_left whole (by simp)
  · intro other listed
    exact (List.pairwise_append.mp ordered).2.2 id (by simp) other listed

end TensorLang
