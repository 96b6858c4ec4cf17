import TensorLang.Tree.Program

set_option autoImplicit false

namespace TensorLang

-- A layout lists the expressions of a program in the order in which they are checked, each with the
-- identities of its new parentheses, the innermost first.
structure Wrapping where
  id : Nat
  parens : List Nat
deriving DecidableEq, Repr

def Wrapping.ids (wrapping : Wrapping) : List Nat := wrapping.id :: wrapping.parens

-- Items that are related one by one, and whose layouts are joined.
inductive Paired {α β : Type} (related : List Wrapping → α → β → Prop) :
    List Wrapping → List α → List β → Prop where
  | nil : Paired related [] [] []
  | cons {first second : List Wrapping} {item : α} {other : β} {rest : List α} {others : List β}
      (head : related first item other) (tail : Paired related second rest others) :
      Paired related (first ++ second) (item :: rest) (other :: others)

def Expr.enclosed (expression : Expr Node) (parens : List Nat) : Expr Node :=
  parens.foldl (fun inner id => .paren ⟨id, inner.span⟩ inner) expression

mutual
inductive Expr.Wraps : List Wrapping → Expr Node → Expr Node → Prop where
  | around {layout : List Wrapping} {expression other : Expr Node}
      (inside : Expr.WrapsParts layout expression other) (parens : List Nat) :
      Expr.Wraps (layout ++ [⟨expression.node.id, parens⟩]) expression (other.enclosed parens)
inductive Expr.WrapsParts : List Wrapping → Expr Node → Expr Node → Prop where
  | binary (node : Node) (operator : BinaryOp) {first second : List Wrapping}
      {left right otherLeft otherRight : Expr Node} (onLeft : Expr.Wraps first left otherLeft)
      (onRight : Expr.Wraps second right otherRight) :
      Expr.WrapsParts (first ++ second) (.binary node operator left right)
        (.binary node operator otherLeft otherRight)
  | compare (node : Node) (operators : List CompareOp) {layout : List Wrapping}
      {operands others : List (Expr Node)} (each : Paired Expr.Wraps layout operands others) :
      Expr.WrapsParts layout (.compare node operands operators) (.compare node others operators)
  | unary (node : Node) (operator : UnaryOp) {layout : List Wrapping} {operand other : Expr Node}
      (part : Expr.Wraps layout operand other) :
      Expr.WrapsParts layout (.unary node operator operand) (.unary node operator other)
  | transpose (node : Node) {layout : List Wrapping} {operand other : Expr Node}
      (part : Expr.Wraps layout operand other) :
      Expr.WrapsParts layout (.transpose node operand) (.transpose node other)
  | call (node : Node) (routine : Name Node) {layout : List Wrapping}
      {arguments others : List (Expr Node)} (each : Paired Expr.Wraps layout arguments others) :
      Expr.WrapsParts layout (.call node routine arguments) (.call node routine others)
  | map (node : Node) (routine target : Name Node) {layout : List Wrapping}
      {partials others : List (Expr Node)} (each : Paired Expr.Wraps layout partials others) :
      Expr.WrapsParts layout (.map node routine partials target) (.map node routine others target)
  | read (node : Node) {first second : List Wrapping} {base otherBase : Expr Node}
      {indices others : List (Index Node)} (onBase : Expr.Wraps first base otherBase)
      (each : Paired Index.Wraps second indices others) :
      Expr.WrapsParts (first ++ second) (.read node base indices) (.read node otherBase others)
  | field (node : Node) (name : Name Node) {layout : List Wrapping} {base other : Expr Node}
      (part : Expr.Wraps layout base other) :
      Expr.WrapsParts layout (.field node base name) (.field node other name)
  | paren (node : Node) {layout : List Wrapping} {inner other : Expr Node}
      (part : Expr.Wraps layout inner other) :
      Expr.WrapsParts layout (.paren node inner) (.paren node other)
  | int (node : Node) (value : Int) : Expr.WrapsParts [] (.int node value) (.int node value)
  | float (node : Node) (value : Float) :
      Expr.WrapsParts [] (.float node value) (.float node value)
  | bool (node : Node) (value : Bool) : Expr.WrapsParts [] (.bool node value) (.bool node value)
  | dense (literal : Dense Node) : Expr.WrapsParts [] (.dense literal) (.dense literal)
  | ident (name : Name Node) : Expr.WrapsParts [] (.ident name) (.ident name)
inductive Index.Wraps : List Wrapping → Index Node → Index Node → Prop where
  | slice (node : Node) : Index.Wraps [] (.slice node) (.slice node)
  | «at» {layout : List Wrapping} {index other : Expr Node}
      (inside : Expr.Wraps layout index other) : Index.Wraps layout (.at index) (.at other)
end

inductive WrapsValue : List Wrapping → Option (Expr Node) → Option (Expr Node) → Prop where
  | none : WrapsValue [] none none
  | some {layout : List Wrapping} {value other : Expr Node}
      (inside : Expr.Wraps layout value other) : WrapsValue layout (some value) (some other)

inductive Declaration.Wraps : List Wrapping → Declaration Node → Declaration Node → Prop where
  | initial (node : Node) (name : Name Node) (type : TypeExpr Node) {layout : List Wrapping}
      {value? other? : Option (Expr Node)} (inside : WrapsValue layout value? other?) :
      Declaration.Wraps layout ⟨node, name, type, value?⟩ ⟨node, name, type, other?⟩

-- A bare name stays one, since it may be declared by the assignment.
inductive Expr.WrapsTarget : List Wrapping → Expr Node → Expr Node → Prop where
  | bare (name : Name Node) : Expr.WrapsTarget [⟨name.node.id, []⟩] (.ident name) (.ident name)
  | compound {layout : List Wrapping} {target other : Expr Node} (compound : target.ident? = none)
      (inside : Expr.Wraps layout target other) : Expr.WrapsTarget layout target other

mutual
inductive Stmt.Wraps : List Wrapping → Stmt Node → Stmt Node → Prop where
  | variable {layout : List Wrapping} {declaration other : Declaration Node}
      (inside : declaration.Wraps layout other) :
      Stmt.Wraps layout (.variable declaration) (.variable other)
  | constant {layout : List Wrapping} {declaration other : Declaration Node}
      (inside : declaration.Wraps layout other) :
      Stmt.Wraps layout (.constant declaration) (.constant other)
  | loop (node : Node) {first second : List Wrapping} {condition otherCondition : Expr Node}
      {body otherBody : Block Node} (onCondition : Expr.Wraps first condition otherCondition)
      (onBody : Block.Wraps second body otherBody) :
      Stmt.Wraps (first ++ second) (.loop node condition body)
        (.loop node otherCondition otherBody)
  | branch (node : Node) {first second : List Wrapping} {condition otherCondition : Expr Node}
      {thenBlock otherThen : Block Node}
      (onCondition : Expr.Wraps first condition otherCondition)
      (onThen : Block.Wraps second thenBlock otherThen) :
      Stmt.Wraps (first ++ second) (.branch node condition thenBlock none)
        (.branch node otherCondition otherThen none)
  | branchElse (node : Node) {first second third : List Wrapping}
      {condition otherCondition : Expr Node} {thenBlock otherThen elseBlock otherElse : Block Node}
      (onCondition : Expr.Wraps first condition otherCondition)
      (onThen : Block.Wraps second thenBlock otherThen)
      (onElse : Block.Wraps third elseBlock otherElse) :
      Stmt.Wraps (first ++ (second ++ third)) (.branch node condition thenBlock (some elseBlock))
        (.branch node otherCondition otherThen (some otherElse))
  | forRange (node : Node) (counter : Name Node) (domain : Node)
      {first second third : List Wrapping} {lower otherLower upper otherUpper : Expr Node}
      {body otherBody : Block Node} (onLower : Expr.Wraps first lower otherLower)
      (onUpper : Expr.Wraps second upper otherUpper) (onBody : Block.Wraps third body otherBody) :
      Stmt.Wraps ((first ++ second) ++ third) (.forRange node counter domain lower upper body)
        (.forRange node counter domain otherLower otherUpper otherBody)
  | forSet (node : Node) (counter : Name Node) (domain : Node) (set : Name Node)
      {layout : List Wrapping} {body otherBody : Block Node}
      (onBody : Block.Wraps layout body otherBody) :
      Stmt.Wraps layout (.forSet node counter domain set body)
        (.forSet node counter domain set otherBody)
  | print (node : Node) {layout : List Wrapping} {value other : Expr Node}
      (inside : Expr.Wraps layout value other) :
      Stmt.Wraps layout (.print node value) (.print node other)
  | assign (node : Node) {first second : List Wrapping} {value otherValue : Expr Node}
      {targets others : List (Expr Node)} (onValue : Expr.Wraps first value otherValue)
      (each : Paired Expr.WrapsTarget second targets others) :
      Stmt.Wraps (first ++ second) (.assign node targets value) (.assign node others otherValue)
  | eval (node : Node) {layout : List Wrapping} {value other : Expr Node}
      (inside : Expr.Wraps layout value other) :
      Stmt.Wraps layout (.eval node value) (.eval node other)
inductive Block.Wraps : List Wrapping → Block Node → Block Node → Prop where
  | statements (node : Node) {layout : List Wrapping} {statements others : List (Stmt Node)}
      (each : Paired Stmt.Wraps layout statements others) :
      Block.Wraps layout ⟨node, statements⟩ ⟨node, others⟩
end

inductive Definition.Wraps : List Wrapping → Definition Node → Definition Node → Prop where
  | element (declaration : ElementDecl Node) :
      Definition.Wraps [] (.element declaration) (.element declaration)
  | external (declaration : ExternalDecl Node) :
      Definition.Wraps [] (.external declaration) (.external declaration)
  | routine (node : Node) (word : RoutineWord) (name : Name Node)
      (parameters : List (ParameterDecl Node)) (results : List (ResultDecl Node))
      {layout : List Wrapping} {body other : Block Node} (inside : Block.Wraps layout body other) :
      Definition.Wraps layout (.routine ⟨node, word, name, parameters, results, body⟩)
        (.routine ⟨node, word, name, parameters, results, other⟩)
  | constant {layout : List Wrapping} {declaration other : Declaration Node}
      (inside : declaration.Wraps layout other) :
      Definition.Wraps layout (.constant declaration) (.constant other)
  | test (node : Node) (routine : Name Node) {first second : List Wrapping}
      {arguments others : List (Expr Node)} {expected otherExpected : Expr Node}
      (each : Paired Expr.Wraps first arguments others)
      (onExpected : Expr.Wraps second expected otherExpected) :
      Definition.Wraps (first ++ second) (.test ⟨node, routine, arguments, expected⟩)
        (.test ⟨node, routine, others, otherExpected⟩)

inductive Program.Wraps : List Wrapping → Program Node → Program Node → Prop where
  | definitions (node : Node) {layout : List Wrapping} {definitions others : List (Definition Node)}
      (each : Paired Definition.Wraps layout definitions others) :
      Program.Wraps layout ⟨node, definitions⟩ ⟨node, others⟩

end TensorLang
