import TensorLang.Typing.Assignment
import TensorLang.Typing.Declaration

set_option autoImplicit false

namespace TensorLang

def isTensor : List Ty → Bool
  | [.tensor _] => true
  | _ => false

def checkPrint (table : SymbolTable) (value : Expr Node) : Logged Unit := do
  let types ← value.infer table .read
  Operand.expect isTensor .printed ⟨value.span, types⟩

def Operand.expectCondition : Operand → Logged Unit :=
  Operand.expect (isSingle Ty.isBool) .condition

def Operand.expectBound (bound : Bound) : Operand → Logged Unit :=
  Operand.expect (isSingle Ty.isInt) (.loopBound bound)

def checkBounds (table : SymbolTable) (lower upper : Expr Node) : Logged Unit := do
  let lowerTypes ← lower.infer table .read
  let upperTypes ← upper.infer table .read
  Operand.expectBound .lower ⟨lower.span, lowerTypes⟩
  Operand.expectBound .upper ⟨upper.span, upperTypes⟩

def SymbolTable.bindCounter (table : SymbolTable) (counter : Name Node) : SymbolTable :=
  table.bind counter.text (some .int) .read

mutual
-- A condition is reported after the blocks that depend on it.
def Stmt.check (table : SymbolTable) : Stmt Node → Logged SymbolTable
  | .variable declaration => declaration.check table .variable
  | .constant declaration => declaration.check table .constant
  | .loop _ condition body => do
      let types ← condition.infer table .read
      let table ← body.check table.push
      Operand.expectCondition ⟨condition.span, types⟩
      return table.pop
  | .branch _ condition thenBlock none => do
      let types ← condition.infer table .read
      let table ← thenBlock.check table.push
      Operand.expectCondition ⟨condition.span, types⟩
      return table.pop
  | .branch _ condition thenBlock (some elseBlock) => do
      let types ← condition.infer table .read
      let table ← thenBlock.check table.push
      let table ← elseBlock.check table.pop.push
      Operand.expectCondition ⟨condition.span, types⟩
      return table.pop
  | .forRange _ counter _ lower upper body => do
      checkBounds table.push lower upper
      let table ← body.check (table.push.bindCounter counter)
      return table.pop
  | .forSet _ counter _ set body => do
      let _ ← set.resolveIndexSet table.push
      let table ← body.check (table.push.bindCounter counter)
      return table.pop
  | .print _ value => do
      checkPrint table value
      return table
  | .assign node targets value => checkAssignment table node.span targets value
  | .eval _ value => do
      let _ ← value.infer table .read
      return table
def Block.check (table : SymbolTable) : Block Node → Logged SymbolTable
  | ⟨_, statements⟩ => checkStmts table statements
def checkStmts (table : SymbolTable) : List (Stmt Node) → Logged SymbolTable
  | [] => return table
  | statement :: rest => do
      let table ← statement.check table
      checkStmts table rest
end

end TensorLang
