import TensorLang.Typing.TypeExpr
import TensorLang.Typing.Operand

set_option autoImplicit false

namespace TensorLang

inductive Position where
  | slice (span : Span)
  | at (visit : Visit)

def Position.isIndex : Position → Bool
  | .slice _ => false
  | .at _ => true

def IndexSet.checkIndex (span : Span) (found : Ty) : IndexSet Var → Logged Unit
  | .range _ => Logged.require found.isInt span (.mismatch (.rangeIndex found))
  | .set members => do
      match ← Logged.promised members.setType with
      | none => return ()
      | some (member, _) =>
          Logged.require (found.isInt || member == found) span (.mismatch (.setIndex member found))
  | .dynamic => return ()

def Operand.checkIndex (leading : IndexSet Var) (operand : Operand) : Logged Unit :=
  match operand.types? with
  | none => return ()
  | some [found] => leading.checkIndex operand.span found
  | some [] => Logged.report operand.span (.mismatch .voidIndex)
  | some types => Logged.report operand.span (.mismatch (.manyIndices types))

def Position.readAxis (axis : Axis Var) (leading : IndexSet Var) :
    Position → Logged (Option (Axis Var))
  | .slice _ => return some axis
  | .at visit => do
      (← visit.operand).checkIndex leading
      return none

def TensorType.checkRead (tensor : TensorType Var) (span : Span) (positions : List Position) :
    Logged Outcome :=
  if tensor.order = positions.length then do
    let steps := positions.zip (tensor.axes.zip tensor.outer)
    let kept ← steps.mapM fun (position, axis, leading) => position.readAxis axis leading
    let lastIsIndex := positions.getLast?.any Position.isIndex
    return .tensor (tensor.readKeeping (kept.filterMap id) lastIsIndex)
  else Logged.fail span (.indexCount tensor.order positions.length)

-- A tuple is read at one integer.
def checkTupleRead (span : Span) : List Position → Logged Unit
  | [.at visit] => do (← visit.operand).expect (isSingle Ty.isInt) .tupleIndex
  | [.slice span] => Logged.report span (.mismatch .tupleSlice)
  | positions => Logged.report span (.tupleIndexCount positions.length)

-- Positions are visited only where the base has axes for them.
def checkRead (span : Span) (base : Operand) (positions : List Position) : Logged Outcome :=
  match base.types? with
  | none => return none
  | some [.tensor shape] => shape.checkRead span positions
  | some [.tuple member _] => do
      checkTupleRead span positions
      return .one member
  | some [found] => Logged.fail base.span (.mismatch (.readFrom found))
  | some _ => Logged.fail base.span (.mismatch .readMany)

def leadingSet (table : SymbolTable) : Option (Name Node) → Logged (Option (IndexSet Var))
  | none => return some .dynamic
  | some name => return (← Logged.promised (table.symbol name.text)).map (.set ·.var)

def Field.ofMembers (table : SymbolTable) (span : Span) (set? : Option (Name Node))
    (field : Field) : Logged Outcome :=
  match field.type.tensor?.filter (·.order ≤ 1) with
  | some shape => do
      let leading ← leadingSet table set?
      return .ofTensor? (leading.map shape.overSet)
  | none => Logged.fail span (.mismatch .setField)

def Element.checkField (record : Element) (name : Name Node) : Logged (Option Field) :=
  match record.field? name.text with
  | some field => return some field
  | none => Logged.fail name.node.span (.undefinedField name.text)

-- `set?` is the name that the base consists of, if it does.
def checkField (table : SymbolTable) (span : Span) (base : Operand) (set? : Option (Name Node))
    (name : Name Node) : Logged Outcome :=
  match base.types? with
  | none => return none
  | some [.element record] => return .ofType? ((← record.checkField name).map Field.type)
  | some [.set member _] => do
      match ← Logged.promised member.toElement with
      | none => return none
      | some record =>
          match ← record.checkField name with
          | none => return none
          | some field => field.ofMembers table span set?
  | some [_] => Logged.fail base.span (.mismatch .fieldOf)
  | some _ => Logged.fail base.span (.mismatch .fieldOfMany)

end TensorLang
