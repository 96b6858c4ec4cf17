import TensorLang.Typing.Lookup

set_option autoImplicit false

namespace TensorLang

def allPresent {α : Type} (values : List (Option α)) : Option (List α) := values.mapM id

namespace Name

def resolveElement (table : SymbolTable) (name : Name Node) : Logged (Option Ty) := do
  match ← table.findElement name.text with
  | some record => return some (.element record)
  | none => Logged.fail name.node.span (.undeclared .elementType name.text)

-- The variable of a name that has to be a set. A variable whose own type is unknown is passed over
-- in silence; one of another type is reported as `wrong` says.
def resolveSet (table : SymbolTable) (wrong : Ty → Mismatch) (name : Name Node) :
    Logged (Option Var) := do
  match ← table.findSymbol name.text with
  | none => Logged.fail name.node.span (.undeclared .set name.text)
  | some symbol =>
      match symbol.var.type? with
      | none => return none
      | some (.set ..) => return some symbol.var
      | some found => Logged.fail name.node.span (.mismatch (wrong found))

def resolveEndpoint (table : SymbolTable) : Name Node → Logged (Option Var) :=
  resolveSet table .endpoint

def resolveIndexSet (table : SymbolTable) : Name Node → Logged (Option Var) :=
  resolveSet table fun _ => .indexSet

end Name

def Domain.resolve (table : SymbolTable) : Domain Node → Logged (Option (IndexSet Var))
  | .range _ size => return some (.range size)
  | .set name => return (← name.resolveIndexSet table).map .set
  | .dynamic _ => return some .dynamic

def tupleLength? (length : Int) : Option Nat :=
  if 1 ≤ length ∧ length < UInt32.size then some length.toNat else none

def TensorType.oriented (span : Span) (column : Bool) (tensor : TensorType Var) :
    Logged (Option Ty) :=
  if !column then return some (.tensor tensor)
  else if tensor.order = 1 then return some (.tensor { tensor with column := true })
  else Logged.fail span (.mismatch (.columnOrder tensor.order))

def Ty.tensorOf (span blockSpan : Span) (column : Bool) (leading : List (IndexSet Var))
    (block : Ty) : Logged (Option Ty) :=
  match block with
  | .tensor shape =>
      match TensorType.ofBlocks? leading shape with
      | some whole => whole.oriented span column
      | none => Logged.fail span (.mismatch .blockOrder)
  | found => Logged.fail blockSpan (.mismatch (.block found))

def TypeExpr.resolve (table : SymbolTable) : TypeExpr Node → Logged (Option Ty)
  | .scalar _ component => return some (.ofScalar component)
  | .element name => name.resolveElement table
  | .set _ member endpoints => do
      let member ← member.resolveElement table
      let endpoints ← endpoints.mapM (Name.resolveEndpoint table)
      match member, allPresent endpoints with
      | some member, some endpoints => return some (.set member endpoints)
      | _, _ => return none
  | .tuple _ member lengthNode length => do
      let member ← member.resolveElement table
      match tupleLength? length with
      | some length => return member.map (.tuple · length)
      | none => Logged.fail lengthNode.span (.mismatch .tupleLength)
  | .tensor node domains inner column => do
      let block ← inner.resolve table
      let leading ← domains.mapM (Domain.resolve table)
      match block, allPresent leading with
      | some block, some leading =>
          block.tensorOf node.span inner.node.span column leading
      | _, _ => return none

end TensorLang
