import TensorLang.Scope.SymbolTable

set_option autoImplicit false

namespace TensorLang

namespace SymbolTable

theorem scopes_push (table : SymbolTable) :
    table.push.scopes = ⟨table.nextScope, []⟩ :: table.scopes := rfl

theorem scopes_pop_subset (table : SymbolTable) {scope : Scope} (live : scope ∈ table.pop.scopes) :
    scope ∈ table.scopes := by
  rcases List.mem_append.mp live with inner | root
  · exact List.mem_append_left _ (List.mem_of_mem_tail inner)
  · exact List.mem_append_right _ root

theorem scopes_bind (table : SymbolTable) (name : String) (type? : Option Ty) (access : Access) :
    ∃ outer, table.scopes = table.current :: outer ∧
      (table.bind name type? access).scopes =
        table.current.insert ⟨table.fresh name type?, access⟩ :: outer := by
  simp only [bind, insert]
  cases shape : table.inner with
  | nil => exact ⟨[], by simp [scopes, current, shape]⟩
  | cons scope outer => exact ⟨outer ++ [table.root], by simp [scopes, current, shape]⟩

@[simp] theorem elements_push (table : SymbolTable) : table.push.elements = table.elements := rfl

@[simp] theorem routines_push (table : SymbolTable) : table.push.routines = table.routines := rfl

@[simp] theorem elements_pop (table : SymbolTable) : table.pop.elements = table.elements := rfl

@[simp] theorem routines_pop (table : SymbolTable) : table.pop.routines = table.routines := rfl

@[simp] theorem elements_bind (table : SymbolTable) (name : String) (type? : Option Ty)
    (access : Access) : (table.bind name type? access).elements = table.elements := by
  simp only [bind, insert]
  split <;> rfl

@[simp] theorem routines_bind (table : SymbolTable) (name : String) (type? : Option Ty)
    (access : Access) : (table.bind name type? access).routines = table.routines := by
  simp only [bind, insert]
  split <;> rfl

end SymbolTable

end TensorLang
