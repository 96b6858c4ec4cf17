import TensorLang.Typing.Call
import TensorLang.Typing.Operator
import TensorLang.Typing.Read

set_option autoImplicit false

namespace TensorLang

def recorded (node : Node) (check : Logged Outcome) : Logged Outcome := do
  let outcome ← check
  Logged.record node.id outcome
  return outcome

-- A name that is not declared is reported, except where it is about to be.
def Name.infer (table : SymbolTable) (mode : Mode) (name : Name Node) : Logged Outcome := do
  match ← table.findSymbol name.text with
  | none =>
      if mode = .define then return none
      else Logged.fail name.node.span (.undeclared .variable name.text)
  | some symbol =>
      Logged.require (symbol.access.allows mode.required) name.node.span
        (.denied name.text mode.required)
      return .ofType? symbol.var.type?

def Shape.tensor (shape : Shape) (column : Bool) : TensorType Var :=
  ⟨shape.component, shape.sizes.map fun size => [.range size], column⟩

-- A transposed vector is a column. No other literal can be transposed.
def Dense.infer (literal : Dense Node) : Logged Outcome :=
  match literal.shape with
  | .error fault => Logged.fail literal.node.span (.mismatch (.literal fault))
  | .ok shape =>
      if literal.isTransposed && shape.sizes.length != 1 then
        Logged.fail literal.node.span (.mismatch .literalTransposed)
      else return .tensor (shape.tensor literal.isTransposed)

mutual
def Expr.infer (table : SymbolTable) (mode : Mode) : Expr Node → Logged Outcome
  | .binary node operator left right => recorded node do
      let leftTypes ← left.infer table .read
      let rightTypes ← right.infer table .read
      operator.check node.span ⟨left.span, leftTypes⟩ ⟨right.span, rightTypes⟩
  | .compare node operands _ => recorded node (checkComparison (visits table operands))
  | .unary node operator operand => recorded node do
      let types ← operand.infer table .read
      operator.check ⟨operand.span, types⟩
  | .transpose node operand => recorded node do
      let types ← operand.infer table .read
      checkTranspose ⟨operand.span, types⟩
  | .call node routine arguments =>
      recorded node (checkCall table node.span routine (visits table arguments))
  | .map node routine partials target =>
      recorded node (checkMap table node.span routine (visits table partials) target)
  | .read node base indices => recorded node do
      let types ← base.infer table mode.ofBase
      checkRead node.span ⟨base.span, types⟩ (positions table indices)
  | .field node base name => recorded node do
      let types ← base.infer table mode.ofBase
      checkField table node.span ⟨base.span, types⟩ base.bare.ident? name
  | .paren node inner => recorded node (inner.infer table mode)
  | .int node _ => recorded node (return .one .int)
  | .float node _ => recorded node (return .one .float)
  | .bool node _ => recorded node (return .one .bool)
  | .dense literal => recorded literal.node literal.infer
  | .ident name => recorded name.node (name.infer table mode)
def visits (table : SymbolTable) : List (Expr Node) → List Visit
  | [] => []
  | operand :: rest => ⟨operand.span, operand.infer table .read⟩ :: visits table rest
def positions (table : SymbolTable) : List (Index Node) → List Position
  | [] => []
  | .slice node :: rest => .slice node.span :: positions table rest
  | .at index :: rest => .at ⟨index.span, index.infer table .read⟩ :: positions table rest
end

end TensorLang
