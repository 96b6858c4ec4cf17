import TensorLang.Tree.TypeExpr

set_option autoImplicit false

namespace TensorLang

structure Declaration (ν : Type) where
  node : ν
  name : Name ν
  type : TypeExpr ν
  value : Option (Expr ν)

mutual
inductive Stmt (ν : Type) where
  | variable (declaration : Declaration ν)
  | constant (declaration : Declaration ν)
  | loop (node : ν) (condition : Expr ν) (body : Block ν)
  | branch (node : ν) (condition : Expr ν) (thenBlock : Block ν) (elseBlock : Option (Block ν))
  | forRange (node : ν) (counter : Name ν) (domain : ν) (lower upper : Expr ν) (body : Block ν)
  | forSet (node : ν) (counter : Name ν) (domain : ν) (set : Name ν) (body : Block ν)
  | print (node : ν) (value : Expr ν)
  | assign (node : ν) (targets : List (Expr ν)) (value : Expr ν)
  | eval (node : ν) (value : Expr ν)
structure Block (ν : Type) where
  node : ν
  statements : List (Stmt ν)
end

structure FieldDecl (ν : Type) where
  node : ν
  name : Name ν
  type : TypeExpr ν

structure ElementDecl (ν : Type) where
  node : ν
  name : Name ν
  fields : List (FieldDecl ν)

structure ExternalDecl (ν : Type) where
  node : ν
  name : Name ν
  type : TypeExpr ν

structure ParameterDecl (ν : Type) where
  node : ν
  name : Name ν
  inout : Bool
  type : TypeExpr ν

structure ResultDecl (ν : Type) where
  node : ν
  name : Name ν
  type : TypeExpr ν

inductive RoutineWord where
  | function
  | procedure
deriving DecidableEq, Repr

-- A function or a procedure. The two words mean the same.
structure RoutineDecl (ν : Type) where
  node : ν
  word : RoutineWord
  name : Name ν
  parameters : List (ParameterDecl ν)
  results : List (ResultDecl ν)
  body : Block ν

structure TestDecl (ν : Type) where
  node : ν
  routine : Name ν
  arguments : List (Expr ν)
  expected : Expr ν

inductive Definition (ν : Type) where
  | element (declaration : ElementDecl ν)
  | external (declaration : ExternalDecl ν)
  | routine (declaration : RoutineDecl ν)
  | constant (declaration : Declaration ν)
  | test (declaration : TestDecl ν)

structure Program (ν : Type) where
  node : ν
  definitions : List (Definition ν)

variable {ν : Type}

def Stmt.node : Stmt ν → ν
  | .variable declaration | .constant declaration => declaration.node
  | .loop node .. | .branch node .. | .forRange node .. | .forSet node .. | .print node _
  | .assign node .. | .eval node _ => node

def Definition.node : Definition ν → ν
  | .element declaration => declaration.node
  | .external declaration => declaration.node
  | .routine declaration => declaration.node
  | .constant declaration => declaration.node
  | .test declaration => declaration.node

def Definition.routine? : Definition ν → Option (RoutineDecl ν)
  | .routine declaration => some declaration
  | .element _ | .external _ | .constant _ | .test _ => none

def Definition.element? : Definition ν → Option (ElementDecl ν)
  | .element declaration => some declaration
  | .external _ | .routine _ | .constant _ | .test _ => none

namespace Program

def routines (program : Program ν) : List (RoutineDecl ν) :=
  program.definitions.filterMap Definition.routine?

def elements (program : Program ν) : List (ElementDecl ν) :=
  program.definitions.filterMap Definition.element?

end Program

end TensorLang
