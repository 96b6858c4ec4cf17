import TensorLang.Proofs.OwnNodes

set_option autoImplicit false

namespace TensorLang

namespace Bench

theorem ids_after (cursor : Cursor) (call : Call) (rest : Multiset Item) : ∃ count,
    (after cursor call rest).cursor.next = cursor.next + count ∧
      (after cursor call rest).ids =
        ids ⟨cursor, call.arguments + rest⟩ + (issued cursor.next count : Multiset Nat) := by
  obtain ⟨count, own, next⟩ := call_own call cursor
  have nodes := item_nodes (call.run cursor).1
  rw [own, call_parts] at nodes
  refine ⟨count, next, ?_⟩
  have arguments : (call.arguments : Multiset Item).bind (fun item => (item.ids : Multiset Nat)) =
      (call.arguments.flatMap Item.ids : Multiset Nat) := Multiset.coe_bind ..
  simp only [after, ids, Multiset.cons_bind, Multiset.add_bind, arguments,
    Multiset.coe_eq_coe.mpr nodes, ← Multiset.coe_add]
  ac_rfl

-- Every identity since `first` is that of one node on the bench.
def Accounts (first : Nat) (bench : Bench) : Prop :=
  ∃ count, bench.cursor.next = first + count ∧ bench.ids = (issued first count : Multiset Nat)

theorem accounts_step {first : Nat} {bench next : Bench} (step : Step bench next)
    (accounts : bench.Accounts first) : next.Accounts first := by
  obtain ⟨count, reached, ids⟩ := accounts
  cases step with
  | move place => exact ⟨count, reached, ids⟩
  | call cursor call rest =>
      obtain ⟨more, further, added⟩ := ids_after cursor call rest
      refine ⟨count + more, ?_, ?_⟩
      · exact further.trans (by rw [reached, Nat.add_assoc])
      · exact added.trans (by rw [ids, reached, Multiset.coe_add, issued_append])

theorem accounts_run {first : Nat} {bench next : Bench} (run : Reaches bench next)
    (accounts : bench.Accounts first) : next.Accounts first := by
  induction run with
  | refl => exact accounts
  | tail _ step held => exact accounts_step step held

theorem ids_consecutive {first : Nat} {bench : Bench} (accounts : bench.Accounts first)
    (fits : first + bench.ids.card ≤ UInt32.size) :
    bench.cursor.next = first + bench.ids.card ∧
      bench.ids = (List.range' first bench.ids.card : Multiset Nat) := by
  obtain ⟨count, reached, ids⟩ := accounts
  have size : bench.ids.card = count := by simp [ids, issued]
  rw [size] at fits ⊢
  exact ⟨reached, by rw [ids, issued_within fits]⟩

theorem ids_program {bench : Bench} {program : Program Node}
    (alone : bench.items = {.program program}) :
    bench.ids = (program.expressionIds ++ program.partIds : List Nat) := by
  rw [Bench.ids, alone, Multiset.singleton_bind]
  rfl

theorem program_consecutive {first : Nat} {bench : Bench} {program : Program Node}
    (accounts : bench.Accounts first) (fits : first + bench.ids.card ≤ UInt32.size)
    (alone : bench.items = {.program program}) :
    let ids := program.expressionIds ++ program.partIds
    ids.length = bench.ids.card ∧ ids.Nodup ∧ ids.Perm (List.range' first ids.length) := by
  intro ids
  have listed : bench.ids = (ids : Multiset Nat) := ids_program alone
  have size : ids.length = bench.ids.card := by rw [listed, Multiset.coe_card]
  have same : ids.Perm (List.range' first ids.length) := by
    rw [← Multiset.coe_eq_coe, ← listed, size]
    exact (ids_consecutive accounts fits).2
  exact ⟨size, same.nodup_iff.mpr List.nodup_range', same⟩

theorem next_le {bench later : Bench} (run : Reaches bench later) :
    bench.cursor.next ≤ later.cursor.next := by
  induction run with
  | refl => exact Nat.le_refl _
  | tail _ step held =>
      cases step with
      | move place => exact held
      | call cursor call rest =>
          obtain ⟨count, next, _⟩ := ids_after cursor call rest
          exact held.trans (next ▸ Nat.le_add_right ..)

theorem accounts_start (first : Nat) (span : Span) : (start first span).Accounts first :=
  ⟨0, rfl, rfl⟩

theorem ids_below {first : Nat} {bench : Bench} (accounts : bench.Accounts first)
    (fits : bench.cursor.next ≤ UInt32.size) : ∀ id ∈ bench.ids, id < bench.cursor.next := by
  obtain ⟨count, reached, ids⟩ := accounts
  rw [ids, reached, issued_within (reached ▸ fits)]
  exact fun id listed => (List.mem_range'_1.mp listed).2

theorem call_orderly {first : Nat} {cursor : Cursor} {call : Call} {rest : Multiset Item}
    (accounts : Accounts first ⟨cursor, call.arguments + rest⟩)
    (fits : (after cursor call rest).cursor.next ≤ UInt32.size) : call.Orderly cursor := by
  obtain ⟨count, own, next⟩ := call_own call cursor
  have bound : cursor.next + count ≤ UInt32.size := next ▸ fits
  have nodes := item_nodes (call.run cursor).1
  rw [call_parts] at nodes
  have around (node : Node) (root : node ∈ (call.run cursor).1.root?) :
      (call.run cursor).1.leads ++ [node.id] ++ (call.run cursor).1.subs =
        List.range' cursor.next count := by
    rw [← issued_within bound, ← own, Item.own, Option.mem_def.mp root]
    rfl
  have earlier (id : Nat) (listed : id ∈ call.arguments.flatMap Item.ids) : id < cursor.next := by
    obtain ⟨item, handed, within⟩ := List.mem_flatMap.mp listed
    refine ids_below accounts (Nat.le_of_add_right_le bound) id ?_
    exact Multiset.mem_bind.mpr ⟨item, Multiset.mem_add.mpr (.inl handed), within⟩
  refine ⟨nodes, fun node root id listed => ?_, fun node root => ?_, fun node root => ?_,
    call_rootless call cursor, fun wrapper => wrapper_idle wrapper cursor⟩
  · exact (earlier id listed).trans_le (consecutive_around (around node root)).1
  · exact (consecutive_around (around node root)).2.2
  · exact ⟨cursor.next, (consecutive_around (around node root)).2.1⟩

end Bench

end TensorLang
