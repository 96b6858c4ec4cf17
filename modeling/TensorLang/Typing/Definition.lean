import TensorLang.Typing.Stmt

set_option autoImplicit false

namespace TensorLang

def SymbolTable.registering (table : SymbolTable) (next : Except Duplicate SymbolTable) :
    Logged SymbolTable :=
  return (← Logged.promised (next.mapError .duplicate)).getD table

-- Keeps the first field of every name, and of those the ones whose type is known.
def checkFields (table : SymbolTable) (declared : List String) :
    List (FieldDecl Node) → Logged (List Field)
  | [] => return []
  | field :: rest => do
      let type? ← field.type.resolve table
      let name := field.name.text
      if declared.contains name then
        Logged.report field.node.span (.redefined .field name)
        checkFields table declared rest
      else
        let fields ← checkFields table (name :: declared) rest
        match type? with
        | some type => return ⟨name, type⟩ :: fields
        | none => return fields

def ElementDecl.check (table : SymbolTable) (declaration : ElementDecl Node) :
    Logged SymbolTable := do
  let name := declaration.name.text
  let fields ← checkFields table [] declaration.fields
  match table.element? name with
  | some _ =>
      Logged.report declaration.node.span (.redefined .elementType name)
      return table
  | none => table.registering (table.addElement ⟨name, fields⟩)

def ExternalDecl.check (table : SymbolTable) (declaration : ExternalDecl Node) :
    Logged SymbolTable := do
  let type? ← declaration.type.resolve table
  let name := declaration.name.text
  match table.symbol? name with
  | some _ =>
      Logged.report declaration.node.span (.redefined .variable name)
      return table
  | none => return table.bind name type? .readWrite

structure Slot where
  name : String
  type : TypeExpr Node
  access : Access

def ParameterDecl.slot (parameter : ParameterDecl Node) : Slot :=
  ⟨parameter.name.text, parameter.type, if parameter.inout then .readWrite else .read⟩

def ResultDecl.slot (result : ResultDecl Node) : Slot :=
  ⟨result.name.text, result.type, .readWrite⟩

-- Binds the slots whose types are known. Later annotations can refer to earlier slots.
def bindSlots (table : SymbolTable) : List Slot → Logged (SymbolTable × List (Option Var))
  | [] => return (table, [])
  | slot :: rest => do
      match ← slot.type.resolve table with
      | none => do
          let bound ← bindSlots table rest
          return (bound.1, none :: bound.2)
      | some type => do
          let var := table.fresh slot.name (some type)
          let bound ← bindSlots (table.bind slot.name (some type) slot.access) rest
          return (bound.1, some var :: bound.2)

def RoutineDecl.register (table : SymbolTable) (declaration : RoutineDecl Node)
    (parameters results : List (Option Var)) : Logged SymbolTable :=
  let name := declaration.name.text
  match allPresent parameters, allPresent results with
  | some parameters, some results =>
      match table.routine? name with
      | some _ => do
          Logged.report declaration.node.span (.redefined .routine name)
          return table
      | none =>
          table.registering
            (table.addRoutine ⟨name, parameters, results, .declared declaration.body⟩)
  | _, _ => return table

-- A routine is known only after its body, which cannot call it.
def RoutineDecl.check (table : SymbolTable) (declaration : RoutineDecl Node) :
    Logged SymbolTable := do
  let parameters ← bindSlots table.push (declaration.parameters.map ParameterDecl.slot)
  let results ← bindSlots parameters.1 (declaration.results.map ResultDecl.slot)
  let table ← declaration.body.check results.1
  declaration.register table.pop parameters.2 results.2

def Definition.check (table : SymbolTable) : Definition Node → Logged SymbolTable
  | .element declaration => declaration.check table
  | .external declaration => declaration.check table
  | .routine declaration => declaration.check table
  | .constant declaration => declaration.check table .constant
  -- A test may call routines that come after it.
  | .test _ => return table

def checkDefinitions (table : SymbolTable) : List (Definition Node) → Logged SymbolTable
  | [] => return table
  | definition :: rest => do
      let table ← definition.check table
      checkDefinitions table rest

end TensorLang
