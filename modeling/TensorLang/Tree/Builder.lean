import TensorLang.Tree.Program

set_option autoImplicit false

namespace TensorLang

structure Cursor where
  -- Goes up by one with every identity that is handed out.
  next : Nat
  -- The place of nodes that name none of their own.
  span : Span
deriving DecidableEq, Repr

-- The next identity. Identities have 32 bits, and start over from zero after the last one.
def Cursor.id (cursor : Cursor) : Nat := cursor.next % UInt32.size

abbrev Place := Option Span

abbrev Numbering := StateM Cursor

namespace Place

def moveCursor (place : Place) : Numbering Unit := fun cursor =>
  ((), { cursor with span := place.getD cursor.span })

def stamp (place : Place) : Numbering Node := fun cursor =>
  (⟨cursor.id, place.getD cursor.span⟩, { cursor with next := cursor.next + 1 })

end Place

namespace Name

def stamp (name : Name Place) : Numbering (Name Node) :=
  return ⟨← name.node.stamp, name.text⟩

def stampAll : List (Name Place) → Numbering (List (Name Node))
  | [] => return []
  | name :: names => return (← name.stamp) :: (← stampAll names)

end Name

-- A field of an element whose type has been built, but which has not been made itself.
structure FieldDraft where
  node : Place
  name : Name Place
  type : TypeExpr Node

def FieldDraft.stampAll : List FieldDraft → Numbering (List (FieldDecl Node))
  | [] => return []
  | field :: fields => do
      let node ← field.node.stamp
      let name ← field.name.stamp
      return ⟨node, name, field.type⟩ :: (← stampAll fields)

namespace Builder

def node : Numbering Node := Place.stamp none

def name (text : String) : Numbering (Name Node) := return ⟨← node, text⟩

def ints (values : List Int) (transposed : Bool) : Numbering (Dense Node) :=
  return .ints (← node) values transposed

def floats (values : List Float) (transposed : Bool) : Numbering (Dense Node) :=
  return .floats (← node) values transposed

def nested (rows : List (Dense Node)) (transposed : Bool) : Numbering (Dense Node) :=
  return .nested (← node) rows transposed

def binary (operator : BinaryOp) (left right : Expr Node) : Numbering (Expr Node) :=
  return .binary (← node) operator left right

def compare (operands : List (Expr Node)) (operators : List CompareOp) : Numbering (Expr Node) :=
  return .compare (← node) operands operators

def unary (operator : UnaryOp) (operand : Expr Node) : Numbering (Expr Node) :=
  return .unary (← node) operator operand

def transpose (operand : Expr Node) : Numbering (Expr Node) := return .transpose (← node) operand

def call (routine : Name Place) (arguments : List (Expr Node)) : Numbering (Expr Node) := do
  let node ← node
  return .call node (← routine.stamp) arguments

def map (routine : Name Place) (partials : List (Expr Node)) (target : Name Place) :
    Numbering (Expr Node) := do
  let node ← node
  let routine ← routine.stamp
  return .map node routine partials (← target.stamp)

def read (base : Expr Node) (indices : List (Index Node)) : Numbering (Expr Node) :=
  return .read (← node) base indices

def slice : Numbering (Index Node) := return .slice (← node)

def index (expression : Expr Node) : Numbering (Index Node) := return .at expression

def field (base : Expr Node) (name : Name Place) : Numbering (Expr Node) := do
  let node ← node
  return .field node base (← name.stamp)

def paren (inner : Expr Node) : Numbering (Expr Node) := return .paren (← node) inner

def int (value : Int) : Numbering (Expr Node) := return .int (← node) value

def float (value : Float) : Numbering (Expr Node) := return .float (← node) value

def bool (value : Bool) : Numbering (Expr Node) := return .bool (← node) value

def dense (literal : Dense Node) : Numbering (Expr Node) := return .dense literal

def ident (text : String) : Numbering (Expr Node) := return .ident (← name text)

def range (size : Nat) : Numbering (Domain Node) := return .range (← node) size

def setDomain (text : String) : Numbering (Domain Node) := return .set (← name text)

def dynamic : Numbering (Domain Node) := return .dynamic (← node)

def scalar (component : Scalar) : Numbering (TypeExpr Node) := return .scalar (← node) component

def tensor (domains : List (Domain Node)) (block : TypeExpr Node) (column : Bool) :
    Numbering (TypeExpr Node) :=
  return .tensor (← node) domains block column

def elementType (text : String) : Numbering (TypeExpr Node) := return .element (← name text)

def set (member : Name Place) (endpoints : List (Name Place)) : Numbering (TypeExpr Node) := do
  let node ← node
  let member ← member.stamp
  return .set node member (← Name.stampAll endpoints)

def tuple (member : Name Place) (lengthPlace : Place) (length : Int) :
    Numbering (TypeExpr Node) := do
  let node ← node
  let member ← member.stamp
  return .tuple node member (← lengthPlace.stamp) length

def declaration (name : Name Place) (type : TypeExpr Node) (value : Option (Expr Node)) :
    Numbering (Declaration Node) := do
  let node ← node
  return ⟨node, ← name.stamp, type, value⟩

def block (place : Place) (statements : List (Stmt Node)) : Numbering (Block Node) :=
  return ⟨← place.stamp, statements⟩

def loop (condition : Expr Node) (bodyPlace : Place) (body : List (Stmt Node)) :
    Numbering (Stmt Node) := do
  let node ← node
  return .loop node condition (← block bodyPlace body)

def elseBlock : Option (Place × List (Stmt Node)) → Numbering (Option (Block Node))
  | none => return none
  | some (place, statements) => return some (← block place statements)

def branch (condition : Expr Node) (thenPlace : Place) (thenBody : List (Stmt Node))
    (elseBody : Option (Place × List (Stmt Node))) : Numbering (Stmt Node) := do
  let node ← node
  let thenBlock ← block thenPlace thenBody
  return .branch node condition thenBlock (← elseBlock elseBody)

-- The domain of a loop is made before the loop.
def forRange (counter : Name Place) (domainPlace : Place) (lower upper : Expr Node)
    (bodyPlace : Place) (body : List (Stmt Node)) : Numbering (Stmt Node) := do
  let domain ← domainPlace.stamp
  let node ← node
  let counter ← counter.stamp
  return .forRange node counter domain lower upper (← block bodyPlace body)

def forSet (counter : Name Place) (domainPlace : Place) (set : Name Place) (bodyPlace : Place)
    (body : List (Stmt Node)) : Numbering (Stmt Node) := do
  let domain ← domainPlace.stamp
  let set ← set.stamp
  let node ← node
  let counter ← counter.stamp
  return .forSet node counter domain set (← block bodyPlace body)

def print (value : Expr Node) : Numbering (Stmt Node) := return .print (← node) value

def assign (targets : List (Expr Node)) (value : Expr Node) : Numbering (Stmt Node) :=
  return .assign (← node) targets value

def eval (value : Expr Node) : Numbering (Stmt Node) := return .eval (← node) value

-- The fields and their names are made before the element that owns them.
def element (name : Name Place) (fields : List FieldDraft) : Numbering (ElementDecl Node) := do
  let fields ← FieldDraft.stampAll fields
  let node ← node
  return ⟨node, ← name.stamp, fields⟩

def external (name : Name Place) (type : TypeExpr Node) : Numbering (ExternalDecl Node) := do
  let node ← node
  return ⟨node, ← name.stamp, type⟩

def parameter (name : Name Place) (inout : Bool) (type : TypeExpr Node) :
    Numbering (ParameterDecl Node) := do
  let node ← node
  return ⟨node, ← name.stamp, inout, type⟩

def result (name : Name Place) (type : TypeExpr Node) : Numbering (ResultDecl Node) := do
  let node ← node
  return ⟨node, ← name.stamp, type⟩

def routine (word : RoutineWord) (name : Name Place) (parameters : List (ParameterDecl Node))
    (results : List (ResultDecl Node)) (bodyPlace : Place) (body : List (Stmt Node)) :
    Numbering (RoutineDecl Node) := do
  let node ← node
  let name ← name.stamp
  return ⟨node, word, name, parameters, results, ← block bodyPlace body⟩

def test (routine : Name Place) (arguments : List (Expr Node)) (expected : Expr Node) :
    Numbering (TestDecl Node) := do
  let node ← node
  return ⟨node, ← routine.stamp, arguments, expected⟩

def sourceFile (definitions : List (Definition Node)) : Numbering (Program Node) :=
  return ⟨← node, definitions⟩

end Builder

end TensorLang
