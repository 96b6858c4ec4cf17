import TensorLang.Typing.Logged

set_option autoImplicit false

namespace TensorLang

-- The types an expression gives, one for each of its values. Absent if they are unknown.
abbrev Outcome := Option (List Ty)

namespace Outcome

def one (type : Ty) : Outcome := some [type]

def tensor (shape : TensorType Var) : Outcome := one (.tensor shape)

def ofType? (type? : Option Ty) : Outcome := type?.map ([·])

def ofTensor? (shape? : Option (TensorType Var)) : Outcome := ofType? (shape?.map .tensor)

end Outcome

inductive Mode where
  | read
  | write
  -- A bare name that is assigned to, which need not be declared.
  | define
deriving DecidableEq, Repr

namespace Mode

def required : Mode → Permission
  | .read => .readable
  | .write | .define => .writable

-- To write to a part is to write to the whole.
def ofBase : Mode → Mode
  | .read => .read
  | .write | .define => .write

end Mode

def isSingle (accepts : Ty → Bool) : List Ty → Bool
  | [type] => accepts type
  | _ => false

def singleType? : List Ty → Option Ty
  | [type] => some type
  | _ => none

def numericTensor? : List Ty → Option (TensorType Var)
  | [.tensor shape] => if shape.component.isNumeric then some shape else none
  | _ => none

structure Operand where
  span : Span
  types? : Outcome

structure Visit where
  span : Span
  check : Logged Outcome

def Visit.operand (visit : Visit) : Logged Operand := return ⟨visit.span, ← visit.check⟩

namespace Operand

def expect (accepts : List Ty → Bool) (cause : List Ty → Mismatch) (operand : Operand) :
    Logged Unit :=
  match operand.types? with
  | none => return ()
  | some types => Logged.require (accepts types) operand.span (.mismatch (cause types))

def numeric (side : Side) (arithmetic : Arithmetic) (operand : Operand) :
    Logged (Option (TensorType Var)) := do
  operand.expect (fun types => (numericTensor? types).isSome) (.numericOperand side arithmetic)
  return operand.types?.bind numericTensor?

def argument (operand : Operand) : Logged (Option Ty) :=
  match operand.types? with
  | none => return none
  | some [type] => return some type
  | some [] => Logged.fail operand.span (.mismatch .voidArgument)
  | some types => Logged.fail operand.span (.mismatch (.manyArguments types))

end Operand

end TensorLang
