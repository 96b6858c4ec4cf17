import TensorLang.Tree.Program

set_option autoImplicit false

namespace TensorLang

structure Row (ν : Type) where
  label : String
  node : ν

def BinaryOp.label : BinaryOp → String
  | .or => "Or"
  | .and => "And"
  | .xor => "Xor"
  | .add => "Add"
  | .sub => "Sub"
  | .mul => "Mul"
  | .div => "Div"
  | .elementMul => "ElwiseMul"
  | .elementDiv => "ElwiseDiv"
  | .power => "Exp"

def UnaryOp.label : UnaryOp → String
  | .not => "Not"
  | .neg => "Neg"

def CompareOp.label : CompareOp → String
  | .eq => "Eq"
  | .ne => "Ne"
  | .lt => "Lt"
  | .le => "Le"
  | .gt => "Gt"
  | .ge => "Ge"

def Scalar.label : Scalar → String
  | .int => "Int"
  | .float => "Float"
  | .bool => "Bool"

def RoutineWord.label : RoutineWord → String
  | .function => "function"
  | .procedure => "procedure"

def primed (label : String) (isPrimed : Bool) : String :=
  if isPrimed then label ++ "'" else label

variable {ν : Type}

def Name.row (name : Name ν) : Row ν := ⟨"name " ++ name.text, name.node⟩

def Dense.label : Dense ν → String
  | .ints _ values transposed => primed ("ints " ++ toString values.length) transposed
  | .floats _ values transposed => primed ("floats " ++ toString values.length) transposed
  | .nested _ rows transposed => primed ("nested " ++ toString rows.length) transposed

def Expr.label : Expr ν → String
  | .binary _ operator .. => "bin " ++ operator.label
  | .compare _ _ operators =>
      "cmp [" ++ ", ".intercalate (operators.map CompareOp.label) ++ "]"
  | .unary _ operator _ => "unary " ++ operator.label
  | .transpose .. => "transpose"
  | .call .. => "call"
  | .map .. => "map"
  | .read .. => "read"
  | .field .. => "field"
  | .paren .. => "paren"
  | .int _ value => "int " ++ toString value
  | .float .. => "float"
  | .bool _ value => "bool " ++ toString value
  | .dense _ => "dense"
  | .ident name => "id " ++ name.text

mutual
def Dense.outline : Dense ν → List (Row ν)
  | .ints node values transposed => [⟨(Dense.ints node values transposed).label, node⟩]
  | .floats node values transposed => [⟨(Dense.floats node values transposed).label, node⟩]
  | .nested node rows transposed =>
      ⟨(Dense.nested node rows transposed).label, node⟩ :: outlineRows rows
def outlineRows : List (Dense ν) → List (Row ν)
  | [] => []
  | row :: rows => row.outline ++ outlineRows rows
end

def Expr.row (expression : Expr ν) : Row ν := ⟨expression.label, expression.node⟩

mutual
def Expr.outline : Expr ν → List (Row ν)
  | whole@(.binary _ _ left right) => whole.row :: (left.outline ++ right.outline)
  | whole@(.compare _ operands _) => whole.row :: outlineExprs operands
  | whole@(.unary _ _ operand) => whole.row :: operand.outline
  | whole@(.transpose _ operand) => whole.row :: operand.outline
  | whole@(.call _ routine arguments) => whole.row :: routine.row :: outlineExprs arguments
  | whole@(.map _ routine partials target) =>
      whole.row :: routine.row :: (outlineExprs partials ++ [target.row])
  | whole@(.read _ base indices) => whole.row :: (base.outline ++ outlineIndices indices)
  | whole@(.field _ base name) => whole.row :: (base.outline ++ [name.row])
  | whole@(.paren _ inner) => whole.row :: inner.outline
  | whole@(.dense literal) => whole.row :: literal.outline
  | whole => [whole.row]
def outlineExprs : List (Expr ν) → List (Row ν)
  | [] => []
  | expression :: rest => expression.outline ++ outlineExprs rest
def outlineIndices : List (Index ν) → List (Row ν)
  | [] => []
  | .slice node :: rest => ⟨"slice", node⟩ :: outlineIndices rest
  | .at index :: rest => index.outline ++ outlineIndices rest
end

mutual
def Expr.subexpressions : Expr ν → List (Expr ν)
  | whole@(.binary _ _ left right) => whole :: (left.subexpressions ++ right.subexpressions)
  | whole@(.compare _ operands _) => whole :: allSubexpressions operands
  | whole@(.unary _ _ operand) => whole :: operand.subexpressions
  | whole@(.transpose _ operand) => whole :: operand.subexpressions
  | whole@(.call _ _ arguments) => whole :: allSubexpressions arguments
  | whole@(.map _ _ partials _) => whole :: allSubexpressions partials
  | whole@(.read _ base indices) =>
      whole :: (base.subexpressions ++ indexSubexpressions indices)
  | whole@(.field _ base _) => whole :: base.subexpressions
  | whole@(.paren _ inner) => whole :: inner.subexpressions
  | whole => [whole]
def allSubexpressions : List (Expr ν) → List (Expr ν)
  | [] => []
  | expression :: rest => expression.subexpressions ++ allSubexpressions rest
def indexSubexpressions : List (Index ν) → List (Expr ν)
  | [] => []
  | .slice _ :: rest => indexSubexpressions rest
  | .at index :: rest => index.subexpressions ++ indexSubexpressions rest
end

def Domain.row : Domain ν → Row ν
  | .range node size => ⟨"range " ++ toString size, node⟩
  | .set name => ⟨"set " ++ name.text, name.node⟩
  | .dynamic node => ⟨"dyn", node⟩

def Name.elementRow (name : Name ν) : Row ν := ⟨"elem " ++ name.text, name.node⟩

def TypeExpr.outline : TypeExpr ν → List (Row ν)
  | .scalar node component => [⟨"scalar " ++ component.label, node⟩]
  | .tensor node domains block column =>
      ⟨primed "tensor" column, node⟩ :: (domains.map Domain.row ++ block.outline)
  | .element name => [name.elementRow]
  | .set node member endpoints =>
      ⟨"set_type", node⟩ :: member.elementRow :: endpoints.map Name.row
  | .tuple node member lengthNode length =>
      [⟨"tuple_type", node⟩, member.elementRow, ⟨"int " ++ toString length, lengthNode⟩]

namespace Declaration

def outline (label : String) (declaration : Declaration ν) : List (Row ν) :=
  ⟨label, declaration.node⟩ :: declaration.name.row ::
    (declaration.type.outline ++ declaration.value.elim [] Expr.outline)

def expressions (declaration : Declaration ν) : List (Expr ν) :=
  declaration.value.elim [] Expr.subexpressions

end Declaration

mutual
def Stmt.outline : Stmt ν → List (Row ν)
  | .variable declaration => declaration.outline "var"
  | .constant declaration => declaration.outline "const"
  | .loop node condition body => ⟨"while", node⟩ :: (condition.outline ++ body.outline)
  | .branch node condition thenBlock none =>
      ⟨"if", node⟩ :: (condition.outline ++ thenBlock.outline)
  | .branch node condition thenBlock (some elseBlock) =>
      ⟨"if", node⟩ :: (condition.outline ++ thenBlock.outline ++ elseBlock.outline)
  | .forRange node counter domain lower upper body =>
      ⟨"for", node⟩ :: counter.row :: ⟨"range_domain", domain⟩ ::
        (lower.outline ++ upper.outline ++ body.outline)
  | .forSet node counter domain set body =>
      ⟨"for", node⟩ :: counter.row :: ⟨"set_domain", domain⟩ :: ⟨"set " ++ set.text, set.node⟩ ::
        body.outline
  | .print node value => ⟨"print", node⟩ :: value.outline
  | .assign node targets value =>
      ⟨"assign", node⟩ :: (outlineExprs targets ++ value.outline)
  | .eval node value => ⟨"expr", node⟩ :: value.outline
def Block.outline : Block ν → List (Row ν)
  | ⟨node, statements⟩ => ⟨"block", node⟩ :: outlineStmts statements
def outlineStmts : List (Stmt ν) → List (Row ν)
  | [] => []
  | statement :: rest => statement.outline ++ outlineStmts rest
end

mutual
def Stmt.expressions : Stmt ν → List (Expr ν)
  | .variable declaration | .constant declaration => declaration.expressions
  | .loop _ condition body => condition.subexpressions ++ body.expressions
  | .branch _ condition thenBlock none => condition.subexpressions ++ thenBlock.expressions
  | .branch _ condition thenBlock (some elseBlock) =>
      condition.subexpressions ++ thenBlock.expressions ++ elseBlock.expressions
  | .forRange _ _ _ lower upper body =>
      lower.subexpressions ++ upper.subexpressions ++ body.expressions
  | .forSet _ _ _ _ body => body.expressions
  | .print _ value | .eval _ value => value.subexpressions
  | .assign _ targets value => allSubexpressions targets ++ value.subexpressions
def Block.expressions : Block ν → List (Expr ν)
  | ⟨_, statements⟩ => stmtExpressions statements
def stmtExpressions : List (Stmt ν) → List (Expr ν)
  | [] => []
  | statement :: rest => statement.expressions ++ stmtExpressions rest
end

def FieldDecl.outline (field : FieldDecl ν) : List (Row ν) :=
  ⟨"field_def", field.node⟩ :: field.name.row :: field.type.outline

def ParameterDecl.outline (parameter : ParameterDecl ν) : List (Row ν) :=
  ⟨if parameter.inout then "inout" else "argument", parameter.node⟩ :: parameter.name.row ::
    parameter.type.outline

def ResultDecl.outline (result : ResultDecl ν) : List (Row ν) :=
  ⟨"result", result.node⟩ :: result.name.row :: result.type.outline

namespace Definition

def outline : Definition ν → List (Row ν)
  | .element declaration =>
      ⟨"element", declaration.node⟩ :: declaration.name.row ::
        declaration.fields.flatMap FieldDecl.outline
  | .external declaration =>
      ⟨"extern", declaration.node⟩ :: declaration.name.row :: declaration.type.outline
  | .routine declaration =>
      ⟨declaration.word.label, declaration.node⟩ :: declaration.name.row ::
        (declaration.parameters.flatMap ParameterDecl.outline ++
          declaration.results.flatMap ResultDecl.outline ++ declaration.body.outline)
  | .constant declaration => declaration.outline "const"
  | .test declaration =>
      ⟨"test", declaration.node⟩ :: declaration.routine.row ::
        (outlineExprs declaration.arguments ++ declaration.expected.outline)

def expressions : Definition ν → List (Expr ν)
  | .element _ | .external _ => []
  | .routine declaration => declaration.body.expressions
  | .constant declaration => declaration.expressions
  | .test declaration =>
      allSubexpressions declaration.arguments ++ declaration.expected.subexpressions

end Definition

namespace Program

def outline (program : Program ν) : List (Row ν) :=
  ⟨"source_file", program.node⟩ :: program.definitions.flatMap Definition.outline

def expressions (program : Program ν) : List (Expr ν) :=
  program.definitions.flatMap Definition.expressions

end Program

end TensorLang
