import TensorLang.Scope.Maps

set_option autoImplicit false

namespace TensorLang

-- Only the root registers anything.
def Scope.maps (scope : Scope) : ScopeMaps := ⟨scope.symbol?, fun _ => none, fun _ => none⟩

namespace SymbolTable

def maps (table : SymbolTable) : MapStack where
  root := ⟨table.root.symbol?, table.element?, table.routine?⟩
  inner := table.inner.map Scope.maps
  nextScope := .ofNat table.nextScope
  elementOrder := table.elements
  routineOrder := table.routines

variable (table : SymbolTable)

theorem find_root {α : Type} (select : ScopeMaps → String → Option α) (name : String)
    (none : ∀ scope : Scope, select scope.maps name = none) :
    table.maps.find select name = select table.maps.root name := by
  have absent : (table.inner.map Scope.maps).findSome? (select · name) = Option.none := by
    refine List.findSome?_eq_none_iff.mpr fun maps member => ?_
    obtain ⟨scope, _, rfl⟩ := List.mem_map.mp member
    exact none scope
  simp only [MapStack.find]
  rw [List.findSome?_append, show table.maps.inner = table.inner.map Scope.maps from rfl, absent]
  simp

theorem find_elements (name : String) :
    table.maps.find ScopeMaps.elements name = table.element? name :=
  table.find_root ScopeMaps.elements name fun _ => rfl

end SymbolTable

end TensorLang
