import TensorLang.Proofs.SoundDefinitions
import TensorLang.Tree.Numbering

set_option autoImplicit false

namespace TensorLang

-- No set is too large for a bound that is a length itself.
theorem defects_of_bounded {table : SymbolTable} {log : Log}
    (obeys : log.Obeys (table.rule UInt32.size)) : log.defects = [] := by
  refine List.eq_nil_iff_forall_not_mem.mpr fun defect member => ?_
  exact lt_irrefl _ (obeys.defects defect member)

-- The checker keeps its own promises: what it narrows, looks up or registers has been found to fit
-- before, and no tuple of neighbors is longer than the longest list of endpoints.
theorem check_succeeds (program : Program Node) (intrinsics : Bool)
    (few : ∀ written ∈ program.annotations, written.endpoints.length < UInt32.size) :
    (program.run intrinsics).log.defects = [] ∧
      ∃ report, program.check intrinsics = .ok report := by
  have bounded : ∀ written ∈ program.annotations,
      (written.endpoints.length : ℕ∞) < (UInt32.size : ℕ∞) :=
    fun written member => Nat.cast_lt.mpr (few written member)
  have kept := defects_of_bounded (run_sound program intrinsics bounded).2
  refine ⟨kept, ⟨(program.run intrinsics).log.errors, (program.run intrinsics).log.entries,
    (program.run intrinsics).value⟩, ?_⟩
  unfold Program.check
  dsimp only
  rw [kept]

def roadMap : Program Node :=
  let name (text : String) : Name Place := ⟨none, text⟩
  Program.numbered 0 ⟨none,
    [.element ⟨none, name "City", [⟨none, name "size", .scalar none .float⟩]⟩,
      .external ⟨none, name "cities", .set none (name "City") []⟩,
      .external ⟨none, name "roads",
        .set none (name "City") [name "cities", name "cities"]⟩]⟩

theorem road_map_check_succeeds :
    (∀ written ∈ roadMap.annotations, written.endpoints.length < UInt32.size) ∧
      (roadMap.run true).log.defects = [] ∧
      ∃ report, roadMap.check true = .ok report := by
  have few : ∀ written ∈ roadMap.annotations, written.endpoints.length < UInt32.size := by
    decide +kernel
  exact ⟨few, check_succeeds roadMap true few⟩

end TensorLang
