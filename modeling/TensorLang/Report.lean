import TensorLang.Scope.Prelude
import TensorLang.Typing.Definition

set_option autoImplicit false

namespace TensorLang

structure Report where
  errors : List TypeError
  entries : List Entry
  table : SymbolTable

def Program.run (program : Program Node) (intrinsics : Bool) : Logged SymbolTable := do
  let table ← SymbolTable.empty.registering (SymbolTable.initial intrinsics)
  checkDefinitions table program.definitions

/-- The report on a program. It is withheld if the checker broke one of its own promises. -/
def Program.check (program : Program Node) (intrinsics : Bool) : Except Defect Report :=
  let result := program.run intrinsics
  match result.log.defects with
  | [] => .ok ⟨result.log.errors, result.log.entries, result.value⟩
  | defect :: _ => .error defect

namespace Report

-- The types of the expression with the given identity, as recorded last.
def types? (report : Report) (id : Nat) : Option (List Ty) :=
  (report.entries.reverse.find? (·.id == id)).map Entry.types

def type? (report : Report) (id : Nat) : Option Ty := (report.types? id).bind singleType?

def hasErrors (report : Report) : Bool := !report.errors.isEmpty

def diagnostics (report : Report) : List Diagnostic := report.errors.map TypeError.diagnostic

def ensureNoErrors (report : Report) : Except String Unit :=
  if report.hasErrors then .error ("; ".intercalate (report.errors.map TypeError.text))
  else .ok ()

def element? (report : Report) (name : String) : Option Element := report.table.element? name

def elements (report : Report) : List Element := report.table.elements

def routine? (report : Report) (name : String) : Option Routine := report.table.routine? name

def routines (report : Report) : List Routine :=
  report.table.routines.filter (!·.isIntrinsic)

end Report

end TensorLang
