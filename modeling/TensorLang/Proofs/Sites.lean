import TensorLang.Proofs.Registries

set_option autoImplicit false

namespace TensorLang

inductive Role where
  | external
  | constant
  | variable
  | counter
  | parameter (inout : Bool)
  | result
  -- A bare name that was assigned to before it was declared.
  | target
deriving DecidableEq, Repr

def Role.access : Role → Access
  | .constant | .counter | .parameter false => .read
  | .external | .variable | .parameter true | .result | .target => .readWrite

structure Declared where
  name : String
  role : Role
deriving DecidableEq, Repr

-- The role of a name, as the first of the declarations that are in scope gives it.
def roleOf (declared : List Declared) (name : String) : Option Role :=
  (declared.find? (·.name == name)).map Declared.role

-- To assign to a bare name is to declare it where nothing in scope does so.
def assigning (declared : List Declared) (target : Expr Node) : List Declared :=
  match target.ident? with
  | none => declared
  | some name =>
      match roleOf declared name.text with
      | some _ => declared
      | none => ⟨name.text, .target⟩ :: declared

-- The declarations in scope after a statement, the latest one first.
def Stmt.declaring (declared : List Declared) : Stmt Node → List Declared
  | .variable declaration => ⟨declaration.name.text, .variable⟩ :: declared
  | .constant declaration => ⟨declaration.name.text, .constant⟩ :: declared
  | .assign _ targets _ => targets.foldl assigning declared
  | .loop .. | .branch .. | .forRange .. | .forSet .. | .print .. | .eval .. => declared

def Definition.declaring (declared : List Declared) : Definition Node → List Declared
  | .external declaration => ⟨declaration.name.text, .external⟩ :: declared
  | .constant declaration => ⟨declaration.name.text, .constant⟩ :: declared
  | .element _ | .routine _ | .test _ => declared

def ParameterDecl.declared (parameter : ParameterDecl Node) : Declared :=
  ⟨parameter.name.text, .parameter parameter.inout⟩

def ResultDecl.declared (result : ResultDecl Node) : Declared := ⟨result.name.text, .result⟩

structure Context where
  table : SymbolTable
  declared : List Declared

namespace Context

def push (context : Context) : Context := ⟨context.table.push, context.declared⟩

def counting (context : Context) (counter : Name Node) : Context :=
  ⟨context.table.push.bindCounter counter, ⟨counter.text, .counter⟩ :: context.declared⟩

def after (context : Context) (statement : Stmt Node) : Context :=
  ⟨(statement.check context.table).value, statement.declaring context.declared⟩

-- What a block declares is out of scope after it.
def afterBlock (context : Context) (block : Block Node) : Context :=
  ⟨(block.check context.table.push).value.pop, context.declared⟩

-- In the body of a routine, results come after parameters.
def inside (context : Context) (declaration : RoutineDecl Node) : Context :=
  ⟨declaration.bodyTable context.table,
    (declaration.results.map ResultDecl.declared).reverse ++
      ((declaration.parameters.map ParameterDecl.declared).reverse ++ context.declared)⟩

def afterDefinition (context : Context) (definition : Definition Node) : Context :=
  ⟨(definition.check context.table).value, definition.declaring context.declared⟩

def initial (intrinsics : Bool) : Context :=
  ⟨(SymbolTable.empty.registering (SymbolTable.initial intrinsics)).value, []⟩

end Context

structure Site where
  context : Context
  statement : Stmt Node

mutual
def Stmt.innerSites (context : Context) : Stmt Node → List Site
  | .variable _ | .constant _ | .print .. | .assign .. | .eval .. => []
  | .loop _ _ body => body.sites context.push
  | .branch _ _ thenBlock none => thenBlock.sites context.push
  | .branch _ _ thenBlock (some elseBlock) =>
      thenBlock.sites context.push ++ elseBlock.sites (context.afterBlock thenBlock).push
  | .forRange _ counter _ _ _ body => body.sites (context.counting counter)
  | .forSet _ counter _ _ body => body.sites (context.counting counter)
def Block.sites (context : Context) : Block Node → List Site
  | ⟨_, statements⟩ => stmtSites context statements
def stmtSites (context : Context) : List (Stmt Node) → List Site
  | [] => []
  | statement :: rest =>
      ⟨context, statement⟩ ::
        (statement.innerSites context ++ stmtSites (context.after statement) rest)
end

def Definition.sites (context : Context) : Definition Node → List Site
  | .routine declaration => declaration.body.sites (context.inside declaration)
  | .element _ | .external _ | .constant _ | .test _ => []

def definitionSites (context : Context) : List (Definition Node) → List Site
  | [] => []
  | definition :: rest =>
      definition.sites context ++ definitionSites (context.afterDefinition definition) rest

def Program.sites (program : Program Node) (intrinsics : Bool) : List Site :=
  definitionSites (.initial intrinsics) program.definitions

def Stmt.targets : Stmt Node → List (Expr Node)
  | .assign _ targets _ => targets
  | .variable _ | .constant _ | .loop .. | .branch .. | .forRange .. | .forSet .. | .print ..
  | .eval .. => []

end TensorLang
