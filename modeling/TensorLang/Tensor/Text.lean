import TensorLang.Tensor.Basic

set_option autoImplicit false

namespace TensorLang

variable {σ : Type}

def IndexSet.text (setName : σ → String) : IndexSet σ → String
  | .range size => toString size
  | .set index => setName index
  | .dynamic => "*"

def axisText (setName : σ → String) (axis : Axis σ) : String :=
  " x ".intercalate (axis.map (IndexSet.text setName))

-- Shows the outer index sets and then the block, which shows its own outer index sets.
def TensorType.text (setName : σ → String) (tensor : TensorType σ) : String :=
  if tensor.isScalar then tensor.component.text
  else
    "tensor[" ++ ",".intercalate (tensor.outer.map (IndexSet.text setName)) ++ "](" ++
      tensor.block.text setName ++ ")" ++ (if tensor.column then "'" else "")
termination_by tensor.nesting + tensor.order
decreasing_by
  rename_i proper
  exact tensor.block_depth (by simpa using proper)

end TensorLang
