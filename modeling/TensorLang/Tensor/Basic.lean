import TensorLang.Scalar

set_option autoImplicit false

namespace TensorLang

-- `σ` stands for the sets that may index an axis.
inductive IndexSet (σ : Type) where
  | range (size : Nat)
  | set (set : σ)
  -- A size that is known only when the program runs.
  | dynamic
deriving Repr

-- The outermost index set comes first. An axis of a tensor of blocks has more than one.
abbrev Axis (σ : Type) := List (IndexSet σ)

structure TensorType (σ : Type) where
  component : Scalar
  axes : List (List (IndexSet σ))
  -- Tells a column from a row. Only a tensor with one axis can be a column.
  column : Bool
deriving Repr

structure MissingAxis where
  index : Nat
  order : Nat
deriving DecidableEq, Repr

variable {σ : Type}

namespace IndexSet

def same [BEq σ] : IndexSet σ → IndexSet σ → Bool
  | .range left, .range right => left == right
  | .set left, .set right => left == right
  | .dynamic, .dynamic => true
  | _, _ => false

instance [BEq σ] : BEq (IndexSet σ) := ⟨same⟩

end IndexSet

namespace TensorType

instance [BEq σ] : BEq (TensorType σ) where
  beq left right :=
    left.component == right.component && left.axes == right.axes && left.column == right.column

def scalar (component : Scalar) : TensorType σ := ⟨component, [], false⟩

def order (tensor : TensorType σ) : Nat := tensor.axes.length

def isScalar (tensor : TensorType σ) : Bool := tensor.axes.isEmpty

def axis (tensor : TensorType σ) (index : Nat) : Except MissingAxis (Axis σ) :=
  match tensor.axes[index]? with
  | some axis => .ok axis
  | none => .error ⟨index, tensor.order⟩

def nesting (tensor : TensorType σ) : Nat :=
  match tensor.axes with
  | [] => 0
  | axis :: _ => axis.length

def outer (tensor : TensorType σ) : List (IndexSet σ) := tensor.axes.filterMap List.head?

-- The type of one block. The blocks of a tensor that is not blocked are scalars.
def block (tensor : TensorType σ) : TensorType σ :=
  if tensor.nesting ≤ 1 then scalar tensor.component
  else ⟨tensor.component, tensor.axes.map List.tail, tensor.column⟩

-- A vector changes orientation and a matrix swaps its axes; beyond that there is no transpose.
def transpose (tensor : TensorType σ) : Except MissingAxis (Option (TensorType σ)) :=
  match tensor.order with
  | 0 => return some tensor
  | 1 => return some { tensor with column := !tensor.column }
  | 2 => do
      let rows ← tensor.axis 1
      let columns ← tensor.axis 0
      return some ⟨tensor.component, [rows, columns], false⟩
  | _ => return none

def transposed? (tensor : TensorType σ) : Option (TensorType σ) :=
  tensor.transpose.toOption.join

/--
The tensor whose axes are indexed by `leading` and whose entries are blocks of type `block`. Blocks
that are not scalars need as many axes of their own as there are leading index sets.
-/
def ofBlocks? (leading : List (IndexSet σ)) (block : TensorType σ) : Option (TensorType σ) :=
  if leading.isEmpty then some block
  else if block.isScalar then some ⟨block.component, leading.map ([·]), false⟩
  else if block.order = leading.length then
    some ⟨block.component, List.zipWith List.cons leading block.axes, false⟩
  else none

-- The type of a read that leaves the axes `kept` whole and indexes all others.
def readKeeping (tensor : TensorType σ) (kept : List (Axis σ)) (lastIsIndex : Bool) :
    TensorType σ :=
  if kept.isEmpty then tensor.block
  else ⟨tensor.component, kept, kept.length == 1 && lastIsIndex⟩

-- The vector over an index set of tensors with at most one axis, whose own axis lies inside.
def overSet (tensor : TensorType σ) (leading : IndexSet σ) : TensorType σ :=
  ⟨tensor.component, [leading :: tensor.axes.headD []], tensor.column⟩

def dropUnits [BEq σ] (leading : List (IndexSet σ)) : List (IndexSet σ) :=
  leading.dropWhile (· == .range 1)

def sameUpToUnits [BEq σ] (left right : TensorType σ) : Bool :=
  left.block == right.block && dropUnits left.outer == dropUnits right.outer

theorem block_depth (tensor : TensorType σ) (proper : tensor.isScalar = false) :
    tensor.block.nesting + tensor.block.order < tensor.nesting + tensor.order := by
  obtain ⟨component, axes, column⟩ := tensor
  cases axes with
  | nil => simp [isScalar] at proper
  | cons axis rest =>
      by_cases flat : axis.length ≤ 1
      · simp only [block, nesting, flat, scalar, order, if_true, List.length_cons, List.length_nil]
        omega
      · simp only [block, nesting, flat, order, if_false, List.map_cons, List.length_cons,
          List.length_map, List.length_tail]
        omega

end TensorType

end TensorLang
