import TensorLang.Scope.SymbolTable

set_option autoImplicit false

namespace TensorLang

-- Whether a name is known, what it stands for if it is, or what it stands for since it has to be.
inductive Question where
  | has
  | lookup
  | get
deriving DecidableEq, Repr

inductive Operation where
  | push
  | pop
  | addSymbol (symbol : Symbol)
  | addElement (record : Element)
  | addRoutine (routine : Routine)
  -- Whether the current scope itself binds the name.
  | hasLocal (name : String)
  | symbol (question : Question) (name : String)
  | element (question : Question) (name : String)
  | routine (question : Question) (name : String)

inductive Reply (α : Type) where
  | known (holds : Bool)
  | found (item? : Option α)
  | promised (result : Except Defect α)

def Question.reply {α : Type} (item? : Option α) (item : Except Defect α) : Question → Reply α
  | .has => .known item?.isSome
  | .lookup => .found item?
  | .get => .promised item

inductive Answer where
  | done
  | opened (number : Nat)
  | registered (failure? : Option Duplicate)
  | symbol (reply : Reply Symbol)
  | element (reply : Reply Element)
  | routine (reply : Reply Routine)

namespace SymbolTable

-- The answer to a registration. A table that does not take an item stays as it is.
def taking (table : SymbolTable) : Except Duplicate SymbolTable → Answer × SymbolTable
  | .ok next => (.registered none, next)
  | .error failure => (.registered (some failure), table)

def answer (table : SymbolTable) : Operation → Answer × SymbolTable
  | .push => (.opened table.push.current.number, table.push)
  | .pop => (.done, table.pop)
  | .addSymbol symbol => (.done, table.insert symbol)
  | .addElement record => table.taking (table.addElement record)
  | .addRoutine routine => table.taking (table.addRoutine routine)
  | .hasLocal name => (.symbol (.known (table.local? name).isSome), table)
  | .symbol question name =>
      (.symbol (question.reply (table.symbol? name) (table.symbol name)), table)
  | .element question name =>
      (.element (question.reply (table.element? name) (table.element name)), table)
  | .routine question name =>
      (.routine (question.reply (table.routine? name) (table.routine name)), table)

def answers (table : SymbolTable) : List Operation → List Answer
  | [] => []
  | operation :: rest => (table.answer operation).1 :: answers (table.answer operation).2 rest

end SymbolTable

end TensorLang
