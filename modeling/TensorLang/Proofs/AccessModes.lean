import TensorLang.Proofs.Promises
import TensorLang.Proofs.Steps
import TensorLang.Tree.Names

set_option autoImplicit false

namespace TensorLang

def Name.denials (table : SymbolTable) (name : Name Node) : List TypeError :=
  match table.symbol? name.text with
  | none => []
  | some symbol =>
      if symbol.access = .read then [⟨name.node.span, .denied name.text .writable⟩] else []

def Expr.denials (table : SymbolTable) (expression : Expr Node) : List TypeError :=
  match expression.underlying? with
  | none => []
  | some name => name.denials table

def Expr.isUnbound (table : SymbolTable) (expression : Expr Node) : Bool :=
  match expression.bare.ident? with
  | none => false
  | some name => (table.symbol? name.text).isNone

namespace Logged

theorem recorded_after (node : Node) (errors : List TypeError) (check : Logged Outcome) :
    recorded node (do reportAll errors; check) = (do reportAll errors; recorded node check) := by
  simp only [recorded]
  rw [bind_assoc]

end Logged

open Logged

theorem name_infer_write (table : SymbolTable) (name : Name Node) :
    name.infer table .write = (do reportAll (name.denials table); name.infer table .read) := by
  rw [name.infer_promised, name.infer_promised]
  simp only [Name.denials]
  cases table.symbol? name.text with
  | none => rfl
  | some symbol =>
      cases access : symbol.access with
      | read => simp only [access]; rfl
      | readWrite => simp only [access]; rfl

theorem infer_write (table : SymbolTable) (expression : Expr Node) :
    expression.infer table .write =
      (do reportAll (expression.denials table); expression.infer table .read) := by
  match expression with
  | .ident name =>
      change recorded name.node (name.infer table .write) = _
      rw [name_infer_write, recorded_after]
      rfl
  | .paren node inner =>
      change recorded node (inner.infer table .write) = _
      rw [infer_write table inner, recorded_after]
      rfl
  | .read node base indices =>
      change recorded node (base.infer table .write >>= _) = _
      rw [infer_write table base, bind_assoc, recorded_after]
      rfl
  | .field node base name =>
      change recorded node (base.infer table .write >>= _) = _
      rw [infer_write table base, bind_assoc, recorded_after]
      rfl
  | .binary .. | .compare .. | .unary .. | .transpose .. | .call .. | .map .. | .int .. | .float ..
  | .bool .. | .dense _ => rfl

theorem name_infer_define (table : SymbolTable) (name : Name Node) :
    name.infer table .define =
      if (table.symbol? name.text).isNone then pure none else name.infer table .write := by
  rw [name.infer_promised, name.infer_promised]
  cases table.symbol? name.text with
  | none => rfl
  | some symbol => rfl

-- Only parentheses hand on that a name is about to be declared.
theorem infer_define (table : SymbolTable) (expression : Expr Node) :
    expression.infer table .define =
      if expression.isUnbound table then pure none else expression.infer table .write := by
  match expression with
  | .ident name =>
      change recorded name.node (name.infer table .define) = _
      rw [name_infer_define]
      by_cases unbound : (table.symbol? name.text).isNone = true
      · rw [if_pos unbound]
        exact (if_pos unbound).symm
      · rw [if_neg unbound]
        exact (if_neg unbound).symm
  | .paren node inner =>
      change recorded node (inner.infer table .define) = _
      rw [infer_define table inner]
      by_cases unbound : inner.isUnbound table = true
      · rw [if_pos unbound]
        exact (if_pos unbound).symm
      · rw [if_neg unbound]
        exact (if_neg unbound).symm
  | .read .. | .field .. | .binary .. | .compare .. | .unary .. | .transpose .. | .call ..
  | .map .. | .int .. | .float .. | .bool .. | .dense _ => rfl

end TensorLang
