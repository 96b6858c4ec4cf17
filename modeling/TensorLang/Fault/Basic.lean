import TensorLang.Fault.Mismatch
import TensorLang.Scope.Basic

set_option autoImplicit false

namespace TensorLang

inductive NameKind where
  | set
  | variable
  | routine
  | elementType
deriving DecidableEq, Repr

def NameKind.text : NameKind → String
  | .set => "set"
  | .variable => "variable or constant"
  | .routine => "function"
  | .elementType => "element type"

inductive DefinitionKind where
  | elementType
  | variable
  | routine
  | field
deriving DecidableEq, Repr

def DefinitionKind.text : DefinitionKind → String
  | .elementType => "element type"
  | .variable => "variable or constant"
  | .routine => "function or procedure"
  | .field => "field"

inductive Construct where
  -- Words of the reporter's own.
  | words (text : String)
  | exponentiation
deriving DecidableEq, Repr

def Construct.text : Construct → String
  | .words text => text
  | .exponentiation => "exponentiation"

inductive Fault where
  | undeclared (kind : NameKind) (name : String)
  | undefinedField (name : String)
  | redefined (kind : DefinitionKind) (name : String)
  | mismatch (cause : Mismatch)
  | argumentCount (routine : String) (expected found : Nat)
  | mapArgumentCount (routine : String) (expected found : Nat)
  | assignmentCount (values targets : Nat)
  | indexCount (expected found : Nat)
  | tupleIndexCount (found : Nat)
  | denied (name : String) (required : Permission)
  | unsupported (construct : Construct)

inductive FaultKind where
  | undeclaredIdentifier
  | multipleDefinition
  | typeMismatch
  | arityMismatch
  | permissionViolation
  | unsupportedConstruct
deriving DecidableEq, Repr

namespace Fault

def kind : Fault → FaultKind
  | .undeclared .. | .undefinedField _ => .undeclaredIdentifier
  | .redefined .. => .multipleDefinition
  | .mismatch _ => .typeMismatch
  | .argumentCount .. | .mapArgumentCount .. | .assignmentCount .. | .indexCount ..
  | .tupleIndexCount _ => .arityMismatch
  | .denied .. => .permissionViolation
  | .unsupported _ => .unsupportedConstruct

def message : Fault → String
  | .undeclared kind name => "undeclared " ++ kind.text ++ " '" ++ name ++ "'"
  | .undefinedField name => "undefined field '" ++ name ++ "'"
  | .redefined kind name => "multiple definitions of " ++ kind.text ++ " '" ++ name ++ "'"
  | .mismatch cause => cause.message
  | .argumentCount routine expected found =>
      "passed in " ++ toString found ++ " arguments but function '" ++ routine ++ "' expects " ++
        toString expected
  | .mapArgumentCount routine expected found =>
      "map operation passes " ++ toString found ++ " arguments to assembly function but function '"
        ++ routine ++ "' expects " ++ toString expected ++ " arguments"
  | .assignmentCount values targets =>
      "cannot assign an expression returning " ++ toString values ++ " values to " ++
        toString targets ++ " targets"
  | .indexCount expected found =>
      "tensor access expected " ++ toString expected ++ " indices but got " ++ toString found
  | .tupleIndexCount found =>
      "tuple access expects exactly one index but got " ++ toString found
  | .denied name required => "'" ++ name ++ "' is not " ++ required.text
  | .unsupported construct => construct.text ++ " is not supported"

/-- The text of a fault at a position. Every fault has a wording of its own, position and all. -/
def textAt (position : String) : Fault → String
  | .undeclared kind name =>
      position ++ ": undeclared " ++ kind.text ++ " '" ++ name ++ "'"
  | .undefinedField name => position ++ ": undefined field '" ++ name ++ "'"
  | .redefined kind name =>
      position ++ ": multiple definitions of " ++ kind.text ++ " '" ++ name ++ "'"
  | .mismatch cause => position ++ ": " ++ cause.message
  | .argumentCount routine expected found =>
      position ++ ": passed in " ++ toString found ++ " arguments but function '" ++ routine ++
        "' expects " ++ toString expected
  | .mapArgumentCount routine expected found =>
      position ++ ": map operation passes " ++ toString found ++
        " arguments to assembly function but function '" ++ routine ++ "' expects " ++
        toString expected ++ " arguments"
  | .assignmentCount values targets =>
      position ++ ": cannot assign an expression returning " ++ toString values ++
        " values to " ++ toString targets ++ " targets"
  | .indexCount expected found =>
      position ++ ": tensor access expected " ++ toString expected ++ " indices but got " ++
        toString found
  | .tupleIndexCount found =>
      position ++ ": tuple access expects exactly one index but got " ++ toString found
  | .denied name required => position ++ ": '" ++ name ++ "' is not " ++ required.text
  | .unsupported construct => position ++ ": " ++ construct.text ++ " is not supported"

end Fault

structure TypeError where
  span : Span
  fault : Fault

structure Diagnostic where
  startLine : Nat
  startColumn : Nat
  endLine : Nat
  endColumn : Nat
  message : String
deriving DecidableEq, Repr

def Diagnostic.text (diagnostic : Diagnostic) : String :=
  toString diagnostic.startLine ++ ":" ++ toString diagnostic.startColumn ++ ": " ++
    diagnostic.message

namespace TypeError

def text (error : TypeError) : String := error.fault.textAt error.span.position

-- The text behind the position. A text that does not start with the position is kept whole.
def message (error : TypeError) : String :=
  match error.text.dropPrefix? (error.span.position ++ ": ") with
  | some rest => rest.copy
  | none => error.text

def diagnostic (error : TypeError) : Diagnostic :=
  ⟨error.span.startLine, error.span.startColumn, error.span.endLine, error.span.endColumn,
    error.message⟩

end TypeError

end TensorLang
