import TensorLang.Span

set_option autoImplicit false

namespace TensorLang

-- A node of a draft is annotated with the place that its author gave, if any, and one of a numbered
-- tree with a `Node`.
structure Name (ν : Type) where
  node : ν
  text : String

inductive BinaryOp where
  | or
  | and
  | xor
  | add
  | sub
  | mul
  | div
  | elementMul
  | elementDiv
  | power
deriving DecidableEq, Repr

inductive UnaryOp where
  | not
  | neg
deriving DecidableEq, Repr

inductive CompareOp where
  | eq
  | ne
  | lt
  | le
  | gt
  | ge
deriving DecidableEq, Repr

-- A dense tensor literal: a vector of numbers, or rows that are dense literals themselves.
inductive Dense (ν : Type) where
  | ints (node : ν) (values : List Int) (transposed : Bool)
  | floats (node : ν) (values : List Float) (transposed : Bool)
  | nested (node : ν) (rows : List (Dense ν)) (transposed : Bool)

mutual
inductive Expr (ν : Type) where
  | binary (node : ν) (operator : BinaryOp) (left right : Expr ν)
  -- A chain such as `a < b <= c`.
  | compare (node : ν) (operands : List (Expr ν)) (operators : List CompareOp)
  | unary (node : ν) (operator : UnaryOp) (operand : Expr ν)
  | transpose (node : ν) (operand : Expr ν)
  | call (node : ν) (routine : Name ν) (arguments : List (Expr ν))
  -- Calls `routine` once for every member of the set `target`, after the fixed `partials`.
  | map (node : ν) (routine : Name ν) (partials : List (Expr ν)) (target : Name ν)
  | read (node : ν) (base : Expr ν) (indices : List (Index ν))
  | field (node : ν) (base : Expr ν) (name : Name ν)
  | paren (node : ν) (inner : Expr ν)
  | int (node : ν) (value : Int)
  | float (node : ν) (value : Float)
  | bool (node : ν) (value : Bool)
  | dense (literal : Dense ν)
  | ident (name : Name ν)
inductive Index (ν : Type) where
  | slice (node : ν)
  | at (index : Expr ν)
end

variable {ν : Type}

namespace Dense

def node : Dense ν → ν
  | .ints node .. | .floats node .. | .nested node .. => node

def isTransposed : Dense ν → Bool
  | .ints _ _ transposed | .floats _ _ transposed | .nested _ _ transposed => transposed

end Dense

namespace Expr

-- A dense literal lends its own node.
def node : Expr ν → ν
  | .binary node .. | .compare node .. | .unary node .. | .transpose node .. | .call node ..
  | .map node .. | .read node .. | .field node .. | .paren node .. | .int node ..
  | .float node .. | .bool node .. => node
  | .dense literal => literal.node
  | .ident name => name.node

def span (expression : Expr Node) : Span := expression.node.span

def ident? : Expr ν → Option (Name ν)
  | .ident name => some name
  | _ => none

def bare : Expr ν → Expr ν
  | .paren _ inner => inner.bare
  | expression => expression

end Expr

namespace Index

def node : Index ν → ν
  | .slice node => node
  | .at index => index.node

def isSlice : Index ν → Bool
  | .slice _ => true
  | .at _ => false

end Index

end TensorLang
