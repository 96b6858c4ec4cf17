import TensorLang.Proofs.FirstNamed
import TensorLang.Proofs.MapStacks

set_option autoImplicit false

namespace TensorLang

namespace Operation

def isLevel : Operation → Bool
  | .push | .pop => true
  | _ => false

def element? : Operation → Option Element
  | .addElement record => some record
  | _ => none

def routine? : Operation → Option Routine
  | .addRoutine added => some added
  | _ => none

end Operation

-- Operations that close the scopes that they open, and no others.
inductive Balanced : List Operation → Prop where
  | nil : Balanced []
  | cons {operation : Operation} {rest : List Operation} (stays : operation.isLevel = false)
      (balanced : Balanced rest) : Balanced (operation :: rest)
  | scope {inside rest : List Operation} (inner : Balanced inside) (outer : Balanced rest) :
      Balanced (.push :: (inside ++ .pop :: rest))

theorem Balanced.append {first second : List Operation} (left : Balanced first)
    (right : Balanced second) : Balanced (first ++ second) := by
  induction left with
  | nil => exact right
  | cons stays _ ih => exact .cons stays ih
  | scope inner _ _ ih =>
      rw [List.cons_append, List.append_assoc]
      exact .scope inner ih

namespace SymbolTable

variable (table : SymbolTable)

variable {table}

variable (table)

end SymbolTable

def visit : List Operation :=
  let symbol (id : Nat) : Symbol := ⟨⟨id, "total", some .int⟩, .readWrite⟩
  [.addSymbol (symbol 0), .push, .addElement ⟨"Account", []⟩, .push, .addSymbol (symbol 1), .pop,
    .symbol .lookup "total", .addElement ⟨"Account", [⟨"balance", .float⟩]⟩]

end TensorLang
