import TensorLang.Typing.Expr

set_option autoImplicit false

namespace TensorLang

-- A target of an assignment that has been checked. Its type is absent if it is unknown.
structure Target where
  span : Span
  type? : Option Ty

def Expr.targetMode (target : Expr Node) : Mode :=
  if target.ident?.isSome then .define else .write

def Expr.checkTarget (table : SymbolTable) (target : Expr Node) : Logged Target := do
  let outcome ← target.infer table target.targetMode
  return ⟨target.span, outcome.bind singleType?⟩

-- Besides a value of its own type, a tensor can be assigned a scalar to fill it.
def Ty.canBecome (target value : Ty) : Bool :=
  target == value ||
    match target, value with
    | .tensor target, .tensor value => value.isScalar && target.component == value.component
    | _, _ => false

def Target.error? (target : Target) (value : Ty) : Option TypeError :=
  match target.type? with
  | none => none
  | some type =>
      if type.canBecome value then none
      else some ⟨target.span, .mismatch (.assigned value type)⟩

def assignmentErrors (span : Span) (targets : List Target) (values : List Ty) :
    List TypeError :=
  if values.length = targets.length then
    (targets.zip values).filterMap fun (target, value) => target.error? value
  else [⟨span, .assignmentCount values.length targets.length⟩]

namespace SymbolTable

def declareTarget (table : SymbolTable) (target : Expr Node) (type? : Option Ty) : SymbolTable :=
  match target.ident? with
  | none => table
  | some name =>
      match table.symbol? name.text with
      | some _ => table
      | none => table.bind name.text type? .readWrite

-- Declares the targets one after another, so that a repeated name counts once.
def declareTargets (table : SymbolTable) (targets : List (Expr Node × Option Ty)) : SymbolTable :=
  targets.foldl (fun table (target, type?) => table.declareTarget target type?) table

end SymbolTable

-- The types that new targets get: those of the values, unless something was wrong.
def targetTypes (targets : List (Expr Node)) (values? : Outcome) (errors : List TypeError) :
    List (Option Ty) :=
  match values? with
  | some values =>
      if errors.isEmpty then values.map some else targets.map fun _ => none
  | none => targets.map fun _ => none

def checkTargets (table : SymbolTable) (span : Span) (targets : List (Expr Node))
    (value : Expr Node) : Logged (List (Expr Node × Option Ty)) := do
  let values? ← value.infer table .read
  let checked ← targets.mapM (Expr.checkTarget table)
  let errors := values?.elim [] (assignmentErrors span checked)
  Logged.reportAll errors
  return targets.zip (targetTypes targets values? errors)

def checkAssignment (table : SymbolTable) (span : Span) (targets : List (Expr Node))
    (value : Expr Node) : Logged SymbolTable :=
  return table.declareTargets (← checkTargets table span targets value)

end TensorLang
