import TensorLang.Proofs.Axes
import TensorLang.Typing.Declaration

set_option autoImplicit false

namespace TensorLang

variable {α β : Type}

namespace SymbolTable

theorem symbol_promised {table : SymbolTable} {name : String} {symbol : Symbol}
    (found : table.symbol? name = some symbol) : table.symbol name = .ok symbol := by
  simp only [SymbolTable.symbol]
  rw [found]

theorem find_symbol_promised (table : SymbolTable) (name : String) :
    table.findSymbol name = pure (table.symbol? name) := by
  simp only [findSymbol]
  cases found : table.symbol? name with
  | none => rfl
  | some symbol =>
      rw [symbol_promised found]
      rfl

theorem find_element_promised (table : SymbolTable) (name : String) :
    table.findElement name = pure (table.element? name) := by
  simp only [findElement, SymbolTable.element]
  cases table.element? name <;> rfl

theorem find_routine_promised (table : SymbolTable) (name : String) :
    table.findRoutine name = pure (table.routine? name) := by
  simp only [findRoutine, SymbolTable.routine]
  cases table.routine? name <;> rfl

theorem symbol_of_local {table : SymbolTable} {name : String} {symbol : Symbol}
    (found : table.local? name = some symbol) : table.symbol? name = some symbol := by
  obtain ⟨root, inner, nextScope, nextVar, elements, routines⟩ := table
  cases inner with
  | nil => simpa [symbol?, scopes, local?, current] using found
  | cons scope outer =>
      have here : scope.symbol? name = some symbol := found
      simp [symbol?, scopes, here]

theorem binds_typed_promised (table : SymbolTable) (name : String) :
    table.bindsTyped name =
      (pure ((table.local? name).any (·.var.type?.isSome)) : Logged Bool) := by
  simp only [bindsTyped]
  cases found : table.local? name with
  | none => rfl
  | some symbol =>
      rw [symbol_promised (symbol_of_local found)]
      rfl

end SymbolTable

namespace Name

theorem resolve_element_promised (table : SymbolTable) (name : Name Node) :
    name.resolveElement table =
      match table.element? name.text with
      | some record => pure (some (.element record))
      | none => Logged.fail name.node.span (.undeclared .elementType name.text) := by
  simp only [resolveElement]
  rw [table.find_element_promised]
  cases table.element? name.text <;> rfl

theorem resolve_set_promised (table : SymbolTable) (wrong : Ty → Mismatch) (name : Name Node) :
    name.resolveSet table wrong =
      match table.symbol? name.text with
      | none => Logged.fail name.node.span (.undeclared .set name.text)
      | some symbol =>
          match symbol.var.type? with
          | none => pure none
          | some (.set ..) => pure (some symbol.var)
          | some found => Logged.fail name.node.span (.mismatch (wrong found)) := by
  simp only [resolveSet]
  rw [table.find_symbol_promised]
  cases table.symbol? name.text <;> rfl

theorem resolve_routine_promised (table : SymbolTable) (name : Name Node) :
    name.resolveRoutine table =
      match table.routine? name.text with
      | some routine => pure (some routine)
      | none => Logged.fail name.node.span (.undeclared .routine name.text) := by
  simp only [resolveRoutine]
  rw [table.find_routine_promised]
  cases table.routine? name.text <;> rfl

theorem infer_promised (table : SymbolTable) (mode : Mode) (name : Name Node) :
    name.infer table mode =
      match table.symbol? name.text with
      | none =>
          if mode = .define then pure none
          else Logged.fail name.node.span (.undeclared .variable name.text)
      | some symbol => do
          Logged.require (symbol.access.allows mode.required) name.node.span
            (.denied name.text mode.required)
          return (.ofType? symbol.var.type?) := by
  simp only [infer]
  rw [table.find_symbol_promised]
  cases table.symbol? name.text <;> rfl

end Name

theorem Var.set_type_promised {var : Var} {member : Ty} {endpoints : List Var}
    (typed : var.type? = some (.set member endpoints)) :
    var.setType = .ok (member, endpoints) := by
  rw [Var.setType, typed]
  rfl

theorem combine_product_promised (span : Span) (left right : TensorType Var) :
    Arithmetic.product.combine span left right = (do
      Logged.reportAll ((left.productOf right).fault?.toList.map fun fault =>
        ⟨span, .mismatch (.product fault left right)⟩)
      return (.ofTensor? (left.productOf right).type?)) := by
  simp only [Arithmetic.combine]
  rw [left.product_promised right]
  rfl

def transposedTypes? : List Ty → Option (TensorType Var)
  | [.tensor shape] => shape.transposed?
  | _ => none

theorem transposed_types_promised (types : List Ty) :
    transposedTypes types = .ok (transposedTypes? types) := by
  match types with
  | [.tensor shape] => exact shape.transpose_promised
  | [] | [.set ..] | [.tuple ..] | [.element _] => rfl
  | first :: second :: rest => cases first <;> rfl

theorem check_transpose_promised (operand : Operand) :
    checkTranspose operand = (do
      operand.expect (fun types => (transposedTypes? types).isSome) .transposed
      return (.ofTensor? (operand.types?.bind transposedTypes?))) := by
  simp only [checkTranspose, Operand.expect]
  cases operand.types? with
  | none => rfl
  | some types =>
      dsimp only
      rw [transposed_types_promised]
      rfl

end TensorLang
