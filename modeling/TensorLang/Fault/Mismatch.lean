import TensorLang.Tensor.Arithmetic
import TensorLang.Tree.Shape
import TensorLang.Ty.Text

set_option autoImplicit false

namespace TensorLang

inductive Side where
  | left
  | right
deriving DecidableEq, Repr

def Side.text : Side → String
  | .left => "left"
  | .right => "right"

inductive Bound where
  | lower
  | upper
deriving DecidableEq, Repr

def Bound.text : Bound → String
  | .lower => "lower"
  | .upper => "upper"

inductive Arithmetic where
  | elementwise
  | product
  | quotient
deriving DecidableEq, Repr

def Arithmetic.text : Arithmetic → String
  | .elementwise => "element-wise"
  | .product => "multiplication"
  | .quotient => "division"

inductive Mismatch where
  | words (text : String)
  | endpoint (found : Ty)
  | tupleLength
  | block (found : Ty)
  | blockOrder
  | columnOrder (order : Nat)
  | indexSet
  | initializer (declared : Ty) (found : List Ty)
  | printed (found : List Ty)
  | condition (found : List Ty)
  | loopBound (bound : Bound) (found : List Ty)
  | assigned (value target : Ty)
  | boolOperand (side : Side) (found : List Ty)
  | numericOperand (side : Side) (arithmetic : Arithmetic) (found : List Ty)
  | elementwise (left right : TensorType Var)
  | product (fault : ProductFault) (left right : TensorType Var)
  | quotient (fault : QuotientFault) (left right : TensorType Var)
  | negated (found : List Ty)
  | inverted (found : List Ty)
  | transposed (found : List Ty)
  | notComparable (found : List Ty)
  | compared (found first : List Ty)
  | voidArgument
  | manyArguments (found : List Ty)
  | argument (expected found : Ty)
  | mapTarget
  | mapArgument (routine : String) (expected found : Ty)
  | readMany
  | readFrom (found : Ty)
  | voidIndex
  | manyIndices (found : List Ty)
  | rangeIndex (found : Ty)
  | setIndex (member found : Ty)
  | tupleSlice
  | tupleIndex (found : List Ty)
  | fieldOfMany
  | fieldOf
  | setField
  | literal (fault : ShapeFault)
  | literalTransposed

namespace Mismatch

def pairText (left right : TensorType Var) : String :=
  "type " ++ (Ty.tensor left).quoted ++ " and type " ++ (Ty.tensor right).quoted

def componentsText (left right : TensorType Var) : String :=
  "tensors containing elements of type '" ++ left.component.text ++ "' and type '" ++
    right.component.text ++ "'"

def productText (left right : TensorType Var) : ProductFault → String
  | .components => "cannot multiply " ++ componentsText left right
  | .twoColumns => "cannot multiply two column vectors"
  | .twoRows => "cannot multiply two row vectors"
  | .vectors => "cannot multiply vectors of " ++ pairText left right
  | .matrixVector =>
      "cannot multiply a matrix of type " ++ (Ty.tensor left).quoted ++
        " by a vector of type " ++ (Ty.tensor right).quoted
  | .matrixRow => "cannot multiply a matrix by a row vector"
  | .vectorMatrix =>
      "cannot multiply a vector of type " ++ (Ty.tensor left).quoted ++
        " by a matrix of type " ++ (Ty.tensor right).quoted
  | .columnMatrix => "cannot multiply a column vector by a matrix"
  | .matrices => "cannot multiply matrices of " ++ pairText left right
  | .order => "cannot multiply tensors of order 3 or greater using *"

def quotientText (left right : TensorType Var) : QuotientFault → String
  | .components => "cannot divide " ++ componentsText left right
  | .tensors =>
      "division of a non-scalar tensor of type " ++ (Ty.tensor left).quoted ++
        " by a non-scalar tensor of type " ++ (Ty.tensor right).quoted ++ " is not supported"

def message : Mismatch → String
  | .words text => text
  | .endpoint found =>
      "expected endpoint to be of set type but got an endpoint of type " ++ found.quoted
  | .tupleLength => "tuple must have length greater than or equal to one"
  | .block found => "expected a tensor block type but got a block of type " ++ found.quoted
  | .blockOrder =>
      "blocked tensor type must contain same number of dimensions as its blocks"
  | .columnOrder order =>
      "tensor type declared with " ++ toString order ++
        " dimensions but column vector type must strictly contain one"
  | .indexSet => "index set must be a set, a range, or dynamic (*)"
  | .initializer declared found =>
      "cannot initialize a variable or constant of type " ++ Ty.listText [declared] ++
        " with an expression of type " ++ Ty.listText found
  | .printed found => "cannot print an expression of type " ++ Ty.listText found
  | .condition found =>
      "expected a boolean conditional expression but got an expression of type " ++
        Ty.listText found
  | .loopBound bound found =>
      "expected " ++ bound.text ++
        " bound of for-loop range to be integral but got an expression of type " ++
        Ty.listText found
  | .assigned value target =>
      "cannot assign a value of type " ++ value.quoted ++ " to a target of type " ++ target.quoted
  | .boolOperand side found =>
      "expected " ++ side.text ++
        " operand of boolean operation to be a boolean but got an operand of type " ++
        Ty.listText found
  | .numericOperand side arithmetic found =>
      "expected " ++ side.text ++ " operand of " ++ arithmetic.text ++
        " operation to be a numeric tensor but got an operand of type " ++ Ty.listText found
  | .elementwise left right =>
      "cannot perform element-wise operation on tensors of " ++ pairText left right
  | .product fault left right => productText left right fault
  | .quotient fault left right => quotientText left right fault
  | .negated found =>
      "expected operand of tensor negation to be a numeric tensor but got an operand of type " ++
        Ty.listText found
  | .inverted found =>
      "expected a boolean operand but got an operand of type " ++ Ty.listText found
  | .transposed found =>
      "operand of tensor transpose must be a tensor of order 2 or less, " ++
        "but got an operand of type " ++ Ty.listText found
  | .notComparable found =>
      "comparison operations can only be performed on scalar values, not values of type " ++
        Ty.listText found
  | .compared found first =>
      "value of type " ++ Ty.listText found ++ " cannot be compared to value of type " ++
        Ty.listText first
  | .voidArgument => "must pass a non-void value as argument"
  | .manyArguments found =>
      "cannot pass multiple values of types " ++ Ty.listText found ++ " as a single argument"
  | .argument expected found =>
      "expected argument of type " ++ expected.quoted ++ " but got an argument of type " ++
        found.quoted
  | .mapTarget => "map operation can only be applied to sets"
  | .mapArgument routine expected found =>
      "map operation passes argument of type " ++ found.quoted ++
        " to assembly function but function '" ++ routine ++ "' expects argument of type " ++
        expected.quoted
  | .readMany => "can only access elements of a single tensor or tuple"
  | .readFrom found => "cannot access elements from objects of type " ++ found.quoted
  | .voidIndex => "must pass a non-void value as index"
  | .manyIndices found =>
      "cannot pass multiple values of types " ++ Ty.listText found ++ " as a single index"
  | .rangeIndex found =>
      "expected an integral index but got an index of type " ++ found.quoted
  | .setIndex member found =>
      "expected an integral index or an index of type " ++ member.quoted ++
        " but got an index of type " ++ found.quoted
  | .tupleSlice => "tuple access expects an integral index"
  | .tupleIndex found =>
      "tuple access expects an integral index but got an index of type " ++ Ty.listText found
  | .fieldOfMany => "can only access fields of a single set or element"
  | .fieldOf => "field accesses are only valid for sets and elements"
  | .setField => "cannot read from non-scalar and non-vector set fields"
  | .literal fault => fault.message
  | .literalTransposed => "only one-dimensional tensor literals can be transposed"

end Mismatch

end TensorLang
