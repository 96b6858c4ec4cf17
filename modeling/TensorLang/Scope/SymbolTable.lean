import TensorLang.Fault.Defect
import TensorLang.Scope.Basic

set_option autoImplicit false

namespace TensorLang

structure Scope where
  -- How many scopes of the run had been opened before.
  id : Nat
  -- The latest binding comes first and hides older ones of its name.
  symbols : List Symbol

namespace Scope

-- Numbers have 32 bits, and start over from zero after the last one.
def number (scope : Scope) : Nat := scope.id % UInt32.size

def symbol? (scope : Scope) (name : String) : Option Symbol :=
  scope.symbols.find? (·.name == name)

def insert (scope : Scope) (symbol : Symbol) : Scope :=
  { scope with symbols := symbol :: scope.symbols }

theorem symbol?_insert_self (scope : Scope) (symbol : Symbol) :
    (scope.insert symbol).symbol? symbol.name = some symbol := by
  simp [symbol?, insert]

theorem symbol?_insert_of_ne (scope : Scope) (symbol : Symbol) (name : String)
    (different : symbol.name ≠ name) :
    (scope.insert symbol).symbol? name = scope.symbol? name := by
  simp [symbol?, insert, different]

end Scope

structure SymbolTable where
  root : Scope
  -- The scopes above the root, the innermost first.
  inner : List Scope
  nextScope : Nat
  nextVar : Nat
  -- In order of registration, as are the routines.
  elements : List Element
  routines : List Routine

namespace SymbolTable

def empty : SymbolTable := ⟨⟨0, []⟩, [], 1, 0, [], []⟩

def scopes (table : SymbolTable) : List Scope := table.inner ++ [table.root]

def depth (table : SymbolTable) : Nat := table.inner.length

def current (table : SymbolTable) : Scope := table.inner.headD table.root

def push (table : SymbolTable) : SymbolTable :=
  { table with
    inner := ⟨table.nextScope, []⟩ :: table.inner
    nextScope := table.nextScope + 1 }

def pop (table : SymbolTable) : SymbolTable := { table with inner := table.inner.tail }

def insert (table : SymbolTable) (symbol : Symbol) : SymbolTable :=
  match table.inner with
  | [] => { table with root := table.root.insert symbol }
  | scope :: outer => { table with inner := scope.insert symbol :: outer }

def fresh (table : SymbolTable) (name : String) (type? : Option Ty) : Var :=
  ⟨table.nextVar, name, type?⟩

def bind (table : SymbolTable) (name : String) (type? : Option Ty) (access : Access) :
    SymbolTable :=
  { table.insert ⟨table.fresh name type?, access⟩ with nextVar := table.nextVar + 1 }

def local? (table : SymbolTable) (name : String) : Option Symbol := table.current.symbol? name

def symbol? (table : SymbolTable) (name : String) : Option Symbol :=
  table.scopes.findSome? (·.symbol? name)

def element? (table : SymbolTable) (name : String) : Option Element :=
  table.elements.find? (·.name == name)

def routine? (table : SymbolTable) (name : String) : Option Routine :=
  table.routines.find? (·.name == name)

def symbol (table : SymbolTable) (name : String) : Except Defect Symbol :=
  match table.symbol? name with
  | some symbol => .ok symbol
  | none => .error (.missing .symbol name)

def element (table : SymbolTable) (name : String) : Except Defect Element :=
  match table.element? name with
  | some element => .ok element
  | none => .error (.missing .elementType name)

def routine (table : SymbolTable) (name : String) : Except Defect Routine :=
  match table.routine? name with
  | some routine => .ok routine
  | none => .error (.missing .routine name)

def addElement (table : SymbolTable) (element : Element) : Except Duplicate SymbolTable :=
  match table.element? element.name with
  | some _ => .error (.element element.name)
  | none => .ok { table with elements := table.elements ++ [element] }

def addRoutine (table : SymbolTable) (routine : Routine) : Except Duplicate SymbolTable :=
  match table.routine? routine.name with
  | some _ => .error (.routine routine.name)
  | none => .ok { table with routines := table.routines ++ [routine] }

end SymbolTable

end TensorLang
