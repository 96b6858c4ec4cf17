import TensorLang.Tree.Shape

set_option autoImplicit false

namespace TensorLang

structure Leaf where
  depth : Nat
  component : Scalar
  length : Nat
deriving DecidableEq, Repr

structure Branch where
  depth : Nat
  rows : Nat
deriving DecidableEq, Repr

def Leaf.deepen (leaf : Leaf) : Leaf := { leaf with depth := leaf.depth + 1 }

def Branch.deepen (branch : Branch) : Branch := { branch with depth := branch.depth + 1 }

-- What is wrong with a row of one shape beside a first row of another.
def clashes : (row? first? : Option Shape) → List ShapeFault
  | some row, some first =>
      if row.component ≠ first.component then [.component]
      else if row.sizes ≠ first.sizes then [.sizes]
      else []
  | _, _ => []

variable {ν : Type}

mutual
def Dense.leaves : Dense ν → List Leaf
  | .ints _ values _ => [⟨0, .int, values.length⟩]
  | .floats _ values _ => [⟨0, .float, values.length⟩]
  | .nested _ rows _ => (rowLeaves rows).map Leaf.deepen
def rowLeaves : List (Dense ν) → List Leaf
  | [] => []
  | row :: rows => row.leaves ++ rowLeaves rows
end

mutual
def Dense.branches : Dense ν → List Branch
  | .ints .. | .floats .. => []
  | .nested _ rows _ => ⟨0, rows.length⟩ :: (rowBranches rows).map Branch.deepen
def rowBranches : List (Dense ν) → List Branch
  | [] => []
  | row :: rows => row.branches ++ rowBranches rows
end

mutual
-- The shape of a literal whose rows are all like its first one.
def Dense.spine : Dense ν → Option Shape
  | .ints _ values _ => some ⟨.int, [values.length]⟩
  | .floats _ values _ => some ⟨.float, [values.length]⟩
  | .nested _ rows _ =>
      (firstSpine rows).map fun row => ⟨row.component, rows.length :: row.sizes⟩
def firstSpine : List (Dense ν) → Option Shape
  | [] => none
  | first :: _ => first.spine
end

mutual
/--
What is wrong with a literal, from left to right. The faults within a row come before those that it
has beside the first row.
-/
def Dense.offences : Dense ν → List ShapeFault
  | .ints .. | .floats .. => []
  | .nested _ [] _ => [.empty]
  | .nested _ (first :: rest) _ => first.offences ++ offencesBeside first.spine rest
def offencesBeside (first? : Option Shape) : List (Dense ν) → List ShapeFault
  | [] => []
  | row :: rows =>
      row.offences ++ (clashes row.spine first? ++ offencesBeside first? rows)
end

mutual
def Dense.scalarCount : Dense ν → Nat
  | .ints _ values _ => values.length
  | .floats _ values _ => values.length
  | .nested _ rows _ => rowScalars rows
def rowScalars : List (Dense ν) → Nat
  | [] => 0
  | row :: rows => row.scalarCount + rowScalars rows
end

namespace Dense

structure Bounded (literal : Dense ν) : Prop where
  leaves : ∀ leaf ∈ literal.leaves, leaf.length < UInt32.size
  branches : ∀ branch ∈ literal.branches, branch.rows < UInt32.size

structure Rectangular (literal : Dense ν) (component : Scalar) (sizes : List Nat) : Prop where
  leaves : ∀ leaf ∈ literal.leaves, leaf.component = component ∧
    leaf.depth + 1 = sizes.length ∧ sizes.getLast? = some leaf.length
  branches : ∀ branch ∈ literal.branches,
    1 ≤ branch.rows ∧ sizes[branch.depth]? = some branch.rows

end Dense

end TensorLang
