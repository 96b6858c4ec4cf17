import TensorLang.Typing.TypeExpr
import TensorLang.Typing.Operand

set_option autoImplicit false

namespace TensorLang

def passArgument (operand : Operand) (parameter : Var) : Logged Unit := do
  match ← operand.argument, parameter.type? with
  | some found, some expected =>
      Logged.require (found == expected) operand.span (.mismatch (.argument expected found))
  | _, _ => return ()

namespace Routine

-- A call with the wrong number of arguments is reported once, whatever the arguments are.
def checkArguments (routine : Routine) (span : Span) (operands : List Operand) : Logged Unit :=
  if operands.length = routine.parameters.length then
    (operands.zip routine.parameters).forM fun (operand, parameter) =>
      passArgument operand parameter
  else
    Logged.require routine.isVariadic span
      (.argumentCount routine.name routine.parameters.length operands.length)

end Routine

def Name.resolveRoutine (table : SymbolTable) (name : Name Node) : Logged (Option Routine) := do
  match ← table.findRoutine name.text with
  | some routine => return some routine
  | none => Logged.fail name.node.span (.undeclared .routine name.text)

def checkCall (table : SymbolTable) (span : Span) (name : Name Node) (arguments : List Visit) :
    Logged Outcome := do
  let operands ← arguments.mapM Visit.operand
  match ← name.resolveRoutine table with
  | none => return none
  | some routine =>
      routine.checkArguments span operands
      return some routine.resultTypes

structure MapArgument where
  span : Span
  type? : Option Ty

def Visit.mapArgument (visit : Visit) : Logged MapArgument := do
  let operand ← visit.operand
  return ⟨operand.span, ← operand.argument⟩

-- The tuple of the members that an edge joins, all of them taken from the first endpoint.
def neighbors (endpoint : Var) (endpoints : List Var) : Logged (Option Ty) := do
  match ← Logged.promised endpoint.setType with
  | none => return none
  | some (member, _) =>
      if endpoints.length < UInt32.size then return some (.tuple member endpoints.length)
      else Logged.promised (.error (.endpointCount endpoints.length))

-- An edge also passes the members that it joins, if that is the argument that is missing.
def mapArguments (parameterCount : Nat) (span : Span) (partials : List MapArgument) (member : Ty)
    (endpoints : List Var) : Logged (List MapArgument) := do
  let arguments := partials ++ [⟨span, some member⟩]
  match endpoints with
  | [] => return arguments
  | endpoint :: _ =>
      if arguments.length = parameterCount then return arguments
      else return arguments ++ [⟨span, ← neighbors endpoint endpoints⟩]

namespace Routine

def passMapArgument (routine : Routine) (argument : MapArgument) (parameter : Var) :
    Logged Unit :=
  match argument.type?, parameter.type? with
  | some found, some expected =>
      Logged.require (found == expected) argument.span
        (.mismatch (.mapArgument routine.name expected found))
  | _, _ => return ()

def checkMapArguments (routine : Routine) (span : Span) (arguments : List MapArgument) :
    Logged Unit :=
  if arguments.length = routine.parameters.length then
    (arguments.zip routine.parameters).forM fun (argument, parameter) =>
      routine.passMapArgument argument parameter
  else
    Logged.report span
      (.mapArgumentCount routine.name routine.parameters.length arguments.length)

def checkOver (routine : Routine) (span targetSpan : Span) (partials : List MapArgument)
    (target : Var) : Logged Unit := do
  match ← Logged.promised target.setType with
  | none => return ()
  | some (member, endpoints) =>
      let arguments ←
        mapArguments routine.parameters.length targetSpan partials member endpoints
      routine.checkMapArguments span arguments

end Routine

def checkMap (table : SymbolTable) (span : Span) (name : Name Node) (partials : List Visit)
    (target : Name Node) : Logged Outcome := do
  let partials ← partials.mapM Visit.mapArgument
  let routine? ← name.resolveRoutine table
  let target? ← target.resolveSet table fun _ => .mapTarget
  match routine?, target? with
  | none, _ => return none
  | some routine, none => return some routine.resultTypes
  | some routine, some set => do
      routine.checkOver span target.node.span partials set
      return some routine.resultTypes

end TensorLang
