import Mathlib.Data.List.Nodup
import TensorLang.Proofs.FadingStmts
import TensorLang.Proofs.RecordedIds
import TensorLang.Tree.Numbering

set_option autoImplicit false

namespace TensorLang

def Log.types? (log : Log) (id : Nat) : Option (List Ty) :=
  (log.entries.reverse.find? (·.id == id)).map Entry.types

theorem recorded_of_types {log : Log} {id : Nat} {types : List Ty}
    (found : log.types? id = some types) : ⟨id, types⟩ ∈ log.entries := by
  obtain ⟨entry, known, rfl⟩ := Option.map_eq_some_iff.mp found
  have member : entry ∈ log.entries := List.mem_reverse.mp (List.mem_of_find?_eq_some known)
  have same : entry.id = id := by simpa using List.find?_some known
  rw [← same]
  exact member

theorem types_of_recorded {log : Log} (distinct : log.ids.Nodup) {id : Nat} {types : List Ty}
    (member : ⟨id, types⟩ ∈ log.entries) : log.types? id = some types := by
  cases found : log.types? id with
  | none =>
      have absent := Option.map_eq_none_iff.mp found
      have missed := List.find?_eq_none.mp absent ⟨id, types⟩ (List.mem_reverse.mpr member)
      simp at missed
  | some last =>
      have recorded := recorded_of_types found
      have same := List.inj_on_of_nodup_map distinct recorded member rfl
      cases same
      rfl

-- A type that is not known hides what depends on it, but never makes a fault of it.
theorem block_fades {first second : SymbolTable} (faded : first.Fades second)
    (block : Block Node) (clean : (block.check first).log.errors = []) :
    (block.check second).log.errors = [] ∧
      (block.check second).log.entries.Sublist (block.check first).log.entries ∧
      (block.expressionIds.Nodup → ∀ id types,
        (block.check second).log.types? id = some types →
          (block.check first).log.types? id = some types) ∧
      (block.check second).log.defects.Sublist (block.check first).log.defects ∧
      (block.check first).value.Fades (block.check second).value := by
  have copied := block_follows faded block clean
  refine ⟨copied.errors, copied.entries, ?_, copied.defects, copied.value⟩
  intro distinct id types found
  have once : (block.check first).log.ids.Nodup :=
    distinct.sublist (block_ids_sublist first block)
  exact types_of_recorded once (copied.entries.subset (recorded_of_types found))

def totalBlock : Block Node :=
  let name (text : String) : Expr Place := .ident ⟨none, text⟩
  ⟨⟨100, .origin⟩, (numberStmts
    [.assign none [name "total"] (name "amount"),
      .print none (.binary none .add (name "total") (name "amount"))] ⟨0, .origin⟩).1⟩

def amountTable (type? : Option Ty) : SymbolTable :=
  SymbolTable.empty.bind "amount" type? .readWrite

theorem total_block_fades :
    (amountTable (some .int)).Fades (amountTable none) ∧
      (totalBlock.check (amountTable (some .int))).log.errors = [] ∧
      (totalBlock.check (amountTable none)).log.errors = [] ∧
      (totalBlock.check (amountTable (some .int))).value.Fades
        (totalBlock.check (amountTable none)).value := by
  have faded : (amountTable (some .int)).Fades (amountTable none) :=
    (SymbolTable.Fades.refl _).bind "amount" (.none _) .readWrite
  have clean : (totalBlock.check (amountTable (some .int))).log.errors = [] := by
    decide +kernel
  obtain ⟨silent, _, _, _, related⟩ := block_fades faded totalBlock clean
  exact ⟨faded, clean, silent, related⟩

end TensorLang
