set_option autoImplicit false

namespace TensorLang

-- A stretch of text: byte offsets, then first and last position.
structure Span where
  offsetStart : Nat
  offsetEnd : Nat
  startLine : Nat
  startColumn : Nat
  endLine : Nat
  endColumn : Nat
deriving DecidableEq, Repr

def Span.point (line column : Nat) : Span := ⟨0, 0, line, column, line, column⟩

def Span.origin : Span := .point 1 1

def Span.position (span : Span) : String :=
  toString span.startLine ++ ":" ++ toString span.startColumn

structure Node where
  id : Nat
  span : Span
deriving DecidableEq, Repr

end TensorLang
