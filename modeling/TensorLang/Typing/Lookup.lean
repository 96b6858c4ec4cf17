import TensorLang.Scope.SymbolTable
import TensorLang.Typing.Logged

set_option autoImplicit false

namespace TensorLang

namespace SymbolTable

-- A name that is known and yet not found is a defect.
def findSymbol (table : SymbolTable) (name : String) : Logged (Option Symbol) :=
  if (table.symbol? name).isSome then Logged.promised (table.symbol name) else return none

def findElement (table : SymbolTable) (name : String) : Logged (Option Element) :=
  if (table.element? name).isSome then Logged.promised (table.element name) else return none

def findRoutine (table : SymbolTable) (name : String) : Logged (Option Routine) :=
  if (table.routine? name).isSome then Logged.promised (table.routine name) else return none

end SymbolTable

end TensorLang
