import Mathlib.Data.Multiset.Bind
import Mathlib.Logic.Relation
import TensorLang.Tree.Builder
import TensorLang.Tree.Ids

set_option autoImplicit false

namespace TensorLang

inductive Item where
  | identifier (name : Name Node)
  | dense (literal : Dense Node)
  | expr (expression : Expr Node)
  | index (index : Index Node)
  | domain (domain : Domain Node)
  | type (type : TypeExpr Node)
  | block (block : Block Node)
  | stmt (statement : Stmt Node)
  | parameter (declaration : ParameterDecl Node)
  | result (declaration : ResultDecl Node)
  | definition (definition : Definition Node)
  | program (program : Program Node)

-- The identities of all nodes. A literal has one, whether or not it is taken as an expression.
@[simp] def Item.ids : Item → List Nat
  | .identifier name => [name.node.id]
  | .dense literal => literal.node.id :: literal.rowIds
  | .expr expression => expression.ids ++ expression.partIds
  | .index position => indexIds [position] ++ indexPartIds [position]
  | .domain axis => [axis.id]
  | .type annotation => annotation.ids
  | .block body => body.expressionIds ++ body.partIds
  | .stmt statement => statement.expressionIds ++ statement.partIds
  | .parameter declaration => declaration.ids
  | .result declaration => declaration.ids
  | .definition whole => whole.expressionIds ++ whole.partIds
  | .program whole => whole.expressionIds ++ whole.partIds

-- The item's own node, unless it is that of another item.
@[simp] def Item.root? : Item → Option Node
  | .expr (.dense _) | .index (.at _) => none
  | .identifier name => some name.node
  | .dense literal => some literal.node
  | .expr expression => some expression.node
  | .index (.slice node) => some node
  | .domain axis => some axis.node
  | .type annotation => some annotation.node
  | .block body => some body.node
  | .stmt statement => some statement.node
  | .parameter declaration => some declaration.node
  | .result declaration => some declaration.node
  | .definition whole => some whole.node
  | .program whole => some whole.node

def FieldDecl.leads (field : FieldDecl Node) : List Nat := [field.node.id, field.name.node.id]

-- What comes with the item before its own node: fields with their names, and loop domains with
-- their set.
@[simp] def Item.leads : Item → List Nat
  | .definition (.element declaration) => declaration.fields.flatMap FieldDecl.leads
  | .stmt (.forRange _ _ loopDomain ..) => [loopDomain.id]
  | .stmt (.forSet _ _ loopDomain members _) => [loopDomain.id, members.node.id]
  | _ => []

-- What comes with the item after its own node.
@[simp] def Item.subs : Item → List Nat
  | .expr (.call _ routine _) => [routine.node.id]
  | .expr (.map _ routine _ target) => [routine.node.id, target.node.id]
  | .expr (.field _ _ name) => [name.node.id]
  | .type (.set _ member endpoints) =>
      member.node.id :: endpoints.map fun name => name.node.id
  | .type (.tuple _ member length _) => [member.node.id, length.id]
  | .stmt (.variable declaration) | .stmt (.constant declaration) => [declaration.name.node.id]
  | .stmt (.loop _ _ body) => [body.node.id]
  | .stmt (.branch _ _ thenBlock elseBlock) =>
      thenBlock.node.id :: elseBlock.toList.map fun other => other.node.id
  | .stmt (.forRange _ counter _ _ _ body) | .stmt (.forSet _ counter _ _ body) =>
      [counter.node.id, body.node.id]
  | .parameter declaration => [declaration.name.node.id]
  | .result declaration => [declaration.name.node.id]
  | .definition (.element declaration) => [declaration.name.node.id]
  | .definition (.external declaration) => [declaration.name.node.id]
  | .definition (.routine declaration) => [declaration.name.node.id, declaration.body.node.id]
  | .definition (.constant declaration) => [declaration.name.node.id]
  | .definition (.test declaration) => [declaration.routine.node.id]
  | _ => []

@[simp] def Item.own (item : Item) : List Nat :=
  item.leads ++ (item.root?.map Node.id).toList ++ item.subs

def valueItems (value : Option (Expr Node)) : List Item := value.toList.map .expr

def bodyItems (body : Block Node) : List Item := body.statements.map .stmt

@[simp] def Item.parts : Item → List Item
  | .dense (.nested _ rows _) => rows.map .dense
  | .expr (.binary _ _ left right) => [.expr left, .expr right]
  | .expr (.compare _ operands _) => operands.map .expr
  | .expr (.unary _ _ operand) | .expr (.transpose _ operand) | .expr (.field _ operand _)
  | .expr (.paren _ operand) => [.expr operand]
  | .expr (.call _ _ arguments) | .expr (.map _ _ arguments _) => arguments.map .expr
  | .expr (.read _ base indices) => .expr base :: indices.map .index
  | .expr (.dense literal) => [.dense literal]
  | .index (.at expression) => [.expr expression]
  | .type (.tensor _ domains inner _) => domains.map .domain ++ [.type inner]
  | .block body => bodyItems body
  | .stmt (.variable declaration) | .stmt (.constant declaration)
  | .definition (.constant declaration) =>
      .type declaration.type :: valueItems declaration.value
  | .stmt (.loop _ condition body) => .expr condition :: bodyItems body
  | .stmt (.branch _ condition thenBlock elseBlock) =>
      .expr condition :: (bodyItems thenBlock ++ elseBlock.elim [] bodyItems)
  | .stmt (.forRange _ _ _ lower upper body) => .expr lower :: .expr upper :: bodyItems body
  | .stmt (.forSet _ _ _ _ body) => bodyItems body
  | .stmt (.print _ value) | .stmt (.eval _ value) => [.expr value]
  | .stmt (.assign _ targets value) => targets.map .expr ++ [.expr value]
  | .parameter declaration => [.type declaration.type]
  | .result declaration => [.type declaration.type]
  | .definition (.element declaration) => declaration.fields.map fun field => .type field.type
  | .definition (.external declaration) => [.type declaration.type]
  | .definition (.routine declaration) =>
      declaration.parameters.map .parameter ++ declaration.results.map .result ++
        bodyItems declaration.body
  | .definition (.test declaration) =>
      declaration.arguments.map .expr ++ [.expr declaration.expected]
  | .program whole => whole.definitions.map .definition
  | _ => []

inductive Call where
  | identifier (text : String)
  | ints (values : List Int) (transposed : Bool)
  | floats (values : List Float) (transposed : Bool)
  | nested (rows : List (Dense Node)) (transposed : Bool)
  | binary (operator : BinaryOp) (left right : Expr Node)
  | compare (operands : List (Expr Node)) (operators : List CompareOp)
  | unary (operator : UnaryOp) (operand : Expr Node)
  | transpose (operand : Expr Node)
  | call (routine : Name Place) (arguments : List (Expr Node))
  | map (routine : Name Place) (partials : List (Expr Node)) (target : Name Place)
  | read (base : Expr Node) (indices : List (Index Node))
  | slice
  | index (expression : Expr Node)
  | field (base : Expr Node) (name : Name Place)
  | paren (inner : Expr Node)
  | int (value : Int)
  | float (value : Float)
  | bool (value : Bool)
  | dense (literal : Dense Node)
  | ident (text : String)
  | range (size : Nat)
  | setDomain (text : String)
  | dynamic
  | scalar (component : Scalar)
  | tensor (domains : List (Domain Node)) (block : TypeExpr Node) (column : Bool)
  | elementType (text : String)
  | set (member : Name Place) (endpoints : List (Name Place))
  | tuple (member : Name Place) (lengthPlace : Place) (length : Int)
  | variable (name : Name Place) (type : TypeExpr Node) (value : Option (Expr Node))
  | constant (name : Name Place) (type : TypeExpr Node) (value : Option (Expr Node))
  | block (place : Place) (statements : List (Stmt Node))
  | loop (condition : Expr Node) (bodyPlace : Place) (body : List (Stmt Node))
  | branch (condition : Expr Node) (thenPlace : Place) (thenBody : List (Stmt Node))
      (elseBody : Option (Place × List (Stmt Node)))
  | forRange (counter : Name Place) (domainPlace : Place) (lower upper : Expr Node)
      (bodyPlace : Place) (body : List (Stmt Node))
  | forSet (counter : Name Place) (domainPlace : Place) (set : Name Place) (bodyPlace : Place)
      (body : List (Stmt Node))
  | print (value : Expr Node)
  | assign (targets : List (Expr Node)) (value : Expr Node)
  | eval (value : Expr Node)
  | element (name : Name Place) (fields : List FieldDraft)
  | external (name : Name Place) (type : TypeExpr Node)
  | parameter (name : Name Place) (inout : Bool) (type : TypeExpr Node)
  | result (name : Name Place) (type : TypeExpr Node)
  | routine (word : RoutineWord) (name : Name Place) (parameters : List (ParameterDecl Node))
      (results : List (ResultDecl Node)) (bodyPlace : Place) (body : List (Stmt Node))
  | globalConstant (name : Name Place) (type : TypeExpr Node) (value : Option (Expr Node))
  | test (routine : Name Place) (arguments : List (Expr Node)) (expected : Expr Node)
  | sourceFile (definitions : List (Definition Node))

def elseItems (elseBody : Option (Place × List (Stmt Node))) : List Item :=
  elseBody.elim [] fun body => body.2.map .stmt

def Call.arguments : Call → List Item
  | .nested rows _ => rows.map .dense
  | .binary _ left right => [.expr left, .expr right]
  | .compare operands _ => operands.map .expr
  | .unary _ operand | .transpose operand => [.expr operand]
  | .call _ arguments => arguments.map .expr
  | .map _ partials _ => partials.map .expr
  | .read base indices => .expr base :: indices.map .index
  | .index expression => [.expr expression]
  | .field base _ => [.expr base]
  | .paren inner => [.expr inner]
  | .dense literal => [.dense literal]
  | .tensor domains inner _ => domains.map .domain ++ [.type inner]
  | .variable _ type value | .constant _ type value | .globalConstant _ type value =>
      .type type :: valueItems value
  | .block _ statements => statements.map .stmt
  | .loop condition _ body => .expr condition :: body.map .stmt
  | .branch condition _ thenBody elseBody =>
      .expr condition :: (thenBody.map .stmt ++ elseItems elseBody)
  | .forRange _ _ lower upper _ body => .expr lower :: .expr upper :: body.map .stmt
  | .forSet _ _ _ _ body => body.map .stmt
  | .print value | .eval value => [.expr value]
  | .assign targets value => targets.map .expr ++ [.expr value]
  | .element _ fields => fields.map fun field => .type field.type
  | .external _ type | .parameter _ _ type | .result _ type => [.type type]
  | .routine _ _ parameters results _ body =>
      parameters.map .parameter ++ results.map .result ++ body.map .stmt
  | .test _ arguments expected => arguments.map .expr ++ [.expr expected]
  | .sourceFile definitions => definitions.map .definition
  | .identifier _ | .ints .. | .floats .. | .slice | .int _ | .float _ | .bool _ | .ident _
  | .range _ | .setDomain _ | .dynamic | .scalar _ | .elementType _ | .set .. | .tuple .. => []

def Call.run : Call → Numbering Item
  | .identifier text => .identifier <$> Builder.name text
  | .ints values transposed => .dense <$> Builder.ints values transposed
  | .floats values transposed => .dense <$> Builder.floats values transposed
  | .nested rows transposed => .dense <$> Builder.nested rows transposed
  | .binary operator left right => .expr <$> Builder.binary operator left right
  | .compare operands operators => .expr <$> Builder.compare operands operators
  | .unary operator operand => .expr <$> Builder.unary operator operand
  | .transpose operand => .expr <$> Builder.transpose operand
  | .call called arguments => .expr <$> Builder.call called arguments
  | .map called partials target => .expr <$> Builder.map called partials target
  | .read base indices => .expr <$> Builder.read base indices
  | .slice => .index <$> Builder.slice
  | .index expression => .index <$> Builder.index expression
  | .field base name => .expr <$> Builder.field base name
  | .paren inner => .expr <$> Builder.paren inner
  | .int value => .expr <$> Builder.int value
  | .float value => .expr <$> Builder.float value
  | .bool value => .expr <$> Builder.bool value
  | .dense literal => .expr <$> Builder.dense literal
  | .ident text => .expr <$> Builder.ident text
  | .range size => .domain <$> Builder.range size
  | .setDomain text => .domain <$> Builder.setDomain text
  | .dynamic => .domain <$> Builder.dynamic
  | .scalar component => .type <$> Builder.scalar component
  | .tensor domains inner column => .type <$> Builder.tensor domains inner column
  | .elementType text => .type <$> Builder.elementType text
  | .set member endpoints => .type <$> Builder.set member endpoints
  | .tuple member lengthPlace length => .type <$> Builder.tuple member lengthPlace length
  | .variable name type value => (.stmt ∘ .variable) <$> Builder.declaration name type value
  | .constant name type value => (.stmt ∘ .constant) <$> Builder.declaration name type value
  | .block place statements => .block <$> Builder.block place statements
  | .loop condition bodyPlace body => .stmt <$> Builder.loop condition bodyPlace body
  | .branch condition thenPlace thenBody elseBody =>
      .stmt <$> Builder.branch condition thenPlace thenBody elseBody
  | .forRange counter domainPlace lower upper bodyPlace body =>
      .stmt <$> Builder.forRange counter domainPlace lower upper bodyPlace body
  | .forSet counter domainPlace members bodyPlace body =>
      .stmt <$> Builder.forSet counter domainPlace members bodyPlace body
  | .print value => .stmt <$> Builder.print value
  | .assign targets value => .stmt <$> Builder.assign targets value
  | .eval value => .stmt <$> Builder.eval value
  | .element name fields => (.definition ∘ .element) <$> Builder.element name fields
  | .external name type => (.definition ∘ .external) <$> Builder.external name type
  | .parameter name inout type => .parameter <$> Builder.parameter name inout type
  | .result name type => .result <$> Builder.result name type
  | .routine word name parameters results bodyPlace body =>
      (.definition ∘ .routine) <$> Builder.routine word name parameters results bodyPlace body
  | .globalConstant name type value =>
      (.definition ∘ .constant) <$> Builder.declaration name type value
  | .test called arguments expected =>
      (.definition ∘ .test) <$> Builder.test called arguments expected
  | .sourceFile definitions => .program <$> Builder.sourceFile definitions

-- Whether the call makes no node: it takes a literal as an expression, or an expression as an
-- index.
def Call.isWrapper : Call → Bool
  | .dense _ | .index _ => true
  | _ => false

/--
How a call numbers the nodes that it makes: above those of its arguments, with the nodes that come
with an item on both sides of the item's own node.
-/
structure Call.Orderly (call : Call) (cursor : Cursor) : Prop where
  nodes : (call.run cursor).1.ids.Perm
    ((call.run cursor).1.own ++ call.arguments.flatMap Item.ids)
  arguments : ∀ node ∈ (call.run cursor).1.root?,
    ∀ id ∈ call.arguments.flatMap Item.ids, id < node.id
  subs : ∀ node ∈ (call.run cursor).1.root?, ∀ id ∈ (call.run cursor).1.subs, node.id < id
  -- The leads come just before the node, with no gap between them.
  leads : ∀ node ∈ (call.run cursor).1.root?, ∃ first,
    (call.run cursor).1.leads ++ [node.id] =
      List.range' first ((call.run cursor).1.leads.length + 1)
  rootless : (call.run cursor).1.root? = none ↔ call.isWrapper
  idle : call.isWrapper → (call.run cursor).1.own = [] ∧ (call.run cursor).2 = cursor

-- What has been built and is no part of anything else yet.
structure Bench where
  cursor : Cursor
  items : Multiset Item

namespace Bench

def start (first : Nat) (span : Span) : Bench := ⟨⟨first, span⟩, 0⟩

def after (cursor : Cursor) (call : Call) (rest : Multiset Item) : Bench :=
  ⟨(call.run cursor).2, (call.run cursor).1 ::ₘ rest⟩

def ids (bench : Bench) : Multiset Nat := bench.items.bind fun item => (item.ids : Multiset Nat)

inductive Step : Bench → Bench → Prop
  | move (bench : Bench) (place : Place) :
      Step bench { bench with cursor := (place.moveCursor bench.cursor).2 }
  | call (cursor : Cursor) (call : Call) (rest : Multiset Item) :
      Step ⟨cursor, call.arguments + rest⟩ (after cursor call rest)

def Reaches : Bench → Bench → Prop := Relation.ReflTransGen Step

end Bench

end TensorLang
