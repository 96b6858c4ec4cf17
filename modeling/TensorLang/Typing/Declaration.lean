import TensorLang.Typing.Expr

set_option autoImplicit false

namespace TensorLang

-- A scalar initializes every component of a tensor.
def Ty.startsAs (declared initial : Ty) : Bool :=
  initial == declared ||
    match declared, initial with
    | .tensor declared, .tensor initial =>
        initial.isScalar && declared.component == initial.component
    | _, _ => false

def Ty.takes (declared : Ty) (found : List Ty) : Bool := isSingle declared.startsAs found

-- A constant also takes a tensor that differs in leading dimensions of size one.
def Ty.takesConstant (declared : Ty) (found : List Ty) : Bool :=
  declared.takes found ||
    match declared, found with
    | .tensor target, [.tensor value] => target.sameUpToUnits value
    | _, _ => false

inductive Constancy where
  | constant
  | variable
deriving DecidableEq, Repr

namespace Constancy

def access : Constancy → Access
  | .constant => .read
  | .variable => .readWrite

def takes : Constancy → Ty → List Ty → Bool
  | .constant => Ty.takesConstant
  | .variable => Ty.takes

def checkValue (constancy : Constancy) (span : Span) (declared? : Option Ty) (found? : Outcome) :
    Logged Unit :=
  match declared?, found? with
  | some declared, some found =>
      Logged.require (constancy.takes declared found) span
        (.mismatch (.initializer declared found))
  | _, _ => return ()

end Constancy

def SymbolTable.bindsTyped (table : SymbolTable) (name : String) : Logged Bool := do
  match table.local? name with
  | none => return false
  | some _ => return (← Logged.promised (table.symbol name)).any (·.var.type?.isSome)

def Expr.inferValue (table : SymbolTable) : Option (Expr Node) → Logged Outcome
  | none => return none
  | some value => value.infer table .read

/--
Binds the declared name, even where its annotation or its initial value is at fault. Only a binding
of known type stands in the way of another one in the same scope.
-/
def Declaration.check (table : SymbolTable) (constancy : Constancy)
    (declaration : Declaration Node) : Logged SymbolTable := do
  let declared? ← declaration.type.resolve table
  let found? ← Expr.inferValue table declaration.value
  let name := declaration.name.text
  if ← table.bindsTyped name then
    Logged.report declaration.node.span (.redefined .variable name)
    return table
  else
    constancy.checkValue declaration.node.span declared? found?
    return table.bind name declared? constancy.access

end TensorLang
