import TensorLang.Tree.Program
import TensorLang.Ty.Basic

set_option autoImplicit false

namespace TensorLang

inductive Permission where
  | readable
  | writable
deriving DecidableEq, Repr

def Permission.text : Permission → String
  | .readable => "readable"
  | .writable => "writable"

inductive Access where
  | read
  | readWrite
deriving DecidableEq, Repr

-- Every symbol can be read.
def Access.allows : Access → Permission → Bool
  | _, .readable => true
  | .readWrite, .writable => true
  | .read, .writable => false

structure Symbol where
  var : Var
  access : Access

def Symbol.name (symbol : Symbol) : String := symbol.var.name

inductive Origin where
  | intrinsic
  | declared (body : Block Node)

structure Routine where
  name : String
  parameters : List Var
  results : List Var
  origin : Origin

namespace Routine

def isIntrinsic (routine : Routine) : Bool :=
  match routine.origin with
  | .intrinsic => true
  | .declared _ => false

def body? (routine : Routine) : Option (Block Node) :=
  match routine.origin with
  | .intrinsic => none
  | .declared body => some body

def resultTypes (routine : Routine) : List Ty := routine.results.filterMap Var.type?

-- An intrinsic that declares no parameters takes any number of arguments.
def isVariadic (routine : Routine) : Bool :=
  routine.isIntrinsic && routine.parameters.isEmpty

end Routine

end TensorLang
