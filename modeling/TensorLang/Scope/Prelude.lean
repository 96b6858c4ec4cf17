import TensorLang.Scope.SymbolTable

set_option autoImplicit false

namespace TensorLang

structure Intrinsic where
  name : String
  parameters : List Scalar
  result : Scalar
deriving DecidableEq, Repr

namespace Intrinsic

def all : List Intrinsic :=
  ["sin", "cos", "tan", "asin", "acos", "sqrt", "log", "exp"].map (⟨·, [.float], .float⟩) ++
    ["atan2", "pow"].map (⟨·, [.float, .float], .float⟩) ++
    [⟨"mod", [.int, .int], .int⟩] ++
    ["norm", "dot", "det", "clock"].map (⟨·, [], .float⟩)

def parameterVars (intrinsic : Intrinsic) (firstVar : Nat) : List Var :=
  intrinsic.parameters.mapIdx fun index component =>
    ⟨firstVar + index, "arg" ++ toString index, some (.ofScalar component)⟩

def varCount (intrinsic : Intrinsic) : Nat := intrinsic.parameters.length + 1

def routine (intrinsic : Intrinsic) (firstVar : Nat) : Routine where
  name := intrinsic.name
  parameters := intrinsic.parameterVars firstVar
  results :=
    [⟨firstVar + intrinsic.parameters.length, "result", some (.ofScalar intrinsic.result)⟩]
  origin := .intrinsic

def routines (firstVar : Nat) : List Intrinsic → List Routine
  | [] => []
  | intrinsic :: rest =>
      intrinsic.routine firstVar :: routines (firstVar + intrinsic.varCount) rest

end Intrinsic

def prelude : List Routine := Intrinsic.routines 0 Intrinsic.all

namespace SymbolTable

def withPrelude : Except Duplicate SymbolTable :=
  prelude.foldlM addRoutine
    { empty with nextVar := (Intrinsic.all.map Intrinsic.varCount).foldl Nat.add 0 }

def initial (intrinsics : Bool) : Except Duplicate SymbolTable :=
  if intrinsics then withPrelude else .ok empty

end SymbolTable

end TensorLang
