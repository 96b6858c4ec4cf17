import TensorLang.Typing.Operand

set_option autoImplicit false

namespace TensorLang

namespace Arithmetic

def combine (span : Span) (left right : TensorType Var) : Arithmetic → Logged Outcome
  | .elementwise =>
      match left.elementwise? right with
      | some shape => return .tensor shape
      | none => Logged.fail span (.mismatch (.elementwise left right))
  | .product => do
      match ← Logged.promised ((left.product right).mapError .axis) with
      | none => return none
      | some result =>
          Logged.reportAll (result.fault?.toList.map fun fault =>
            ⟨span, .mismatch (.product fault left right)⟩)
          return .ofTensor? result.type?
  | .quotient =>
      match left.quotient right with
      | .ok shape => return .tensor shape
      | .error fault => Logged.fail span (.mismatch (.quotient fault left right))

def check (arithmetic : Arithmetic) (span : Span) (left right : Operand) : Logged Outcome := do
  let left ← left.numeric .left arithmetic
  let right ← right.numeric .right arithmetic
  match left, right with
  | some left, some right => arithmetic.combine span left right
  | _, _ => return none

end Arithmetic

-- Logic gives a boolean whatever its operands are.
def checkLogic (left right : Operand) : Logged Outcome := do
  left.expect (isSingle Ty.isBool) (.boolOperand .left)
  right.expect (isSingle Ty.isBool) (.boolOperand .right)
  return .one .bool

def BinaryOp.check (span : Span) (left right : Operand) : BinaryOp → Logged Outcome
  | .or | .and | .xor => checkLogic left right
  | .add | .sub | .elementMul | .elementDiv => Arithmetic.elementwise.check span left right
  | .mul => Arithmetic.product.check span left right
  | .div => Arithmetic.quotient.check span left right
  | .power => Logged.fail span (.unsupported .exponentiation)

/--
Compares an operand with the first scalar before it, and gives the first scalar so far. An operand
that is no scalar is reported and compared with nothing.
-/
def Operand.compareWith (first? : Outcome) (operand : Operand) : Logged Outcome :=
  match operand.types? with
  | none => return first?
  | some types =>
      if isSingle Ty.isScalar types then
        match first? with
        | none => return some types
        | some first => do
            Logged.require (first == types) operand.span (.mismatch (.compared types first))
            return some first
      else do
        Logged.report operand.span (.mismatch (.notComparable types))
        return first?

def compareAll (first? : Outcome) : List Visit → Logged Outcome
  | [] => return first?
  | visit :: rest => do
      let operand ← visit.operand
      let first? ← operand.compareWith first?
      compareAll first? rest

def checkComparison (operands : List Visit) : Logged Outcome := do
  let _ ← compareAll none operands
  return .one .bool

def UnaryOp.check (operand : Operand) : UnaryOp → Logged Outcome
  | .not => do
      operand.expect (isSingle Ty.isBool) .inverted
      return .one .bool
  | .neg => do
      operand.expect (fun types => (numericTensor? types).isSome) .negated
      return operand.types?.filter fun types => (numericTensor? types).isSome

def transposedTypes : List Ty → Except MissingAxis (Option (TensorType Var))
  | [.tensor shape] => shape.transpose
  | _ => .ok none

def checkTranspose (operand : Operand) : Logged Outcome := do
  match operand.types? with
  | none => return none
  | some types =>
      match ← Logged.promised ((transposedTypes types).mapError .axis) with
      | none => return none
      | some transposed? =>
          Logged.require transposed?.isSome operand.span (.mismatch (.transposed types))
          return .ofTensor? transposed?

end TensorLang
