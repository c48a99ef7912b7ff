import Mathlib.Data.List.Sort
/-!
Sorting stably by a key.

The library sorts lists with `List.mergeSort`, comparing the keys of the
items: the fields of a selection level by name, and a model's rules by the
rank of their strategy. Such a sort is stable. Its result ascends by key
(`List.pairwise_mergeSort_key`) and keeps the items of each key in the order
given (`List.filter_mergeSort_key`); and those two facts pin a list down: two
lists that ascend by key and agree on the items of every key are the same
list (`List.eq_of_filter_key_eq`).
-/
namespace ModelSync

section Key

variable {α β : Type} [LinearOrder β] (key : α → β)

theorem key_le_trans (a b c : α) :
    decide (key a ≤ key b) = true → decide (key b ≤ key c) = true → decide (key a ≤ key c) = true := by
  simpa using le_trans

theorem key_le_total (a b : α) : (decide (key a ≤ key b) || decide (key b ≤ key a)) = true := by
  simpa using le_total (key a) (key b)

theorem List.pairwise_mergeSort_key (l : List α) :
    (l.mergeSort fun a b => key a ≤ key b).Pairwise fun a b => key a ≤ key b :=
  (List.pairwise_mergeSort (key_le_trans key) (key_le_total key) l).imp of_decide_eq_true

variable [BEq β] [LawfulBEq β]

/-- Sorting by a key keeps the items of each key in the order given. -/
theorem List.filter_mergeSort_key (l : List α) (k : β) :
    (l.mergeSort fun a b => key a ≤ key b).filter (key · == k) = l.filter (key · == k) := by
  -- the items of key `k` are pairwise in order, so they stay in order
  have keyed : (l.filter (key · == k)).Pairwise fun a b => decide (key a ≤ key b) = true := by
    refine List.pairwise_of_forall_mem_list fun a memA b memB => ?_
    simp only [List.mem_filter, beq_iff_eq] at memA memB
    simp [memA.2, memB.2]
  have kept := (List.sublist_mergeSort (key_le_trans key) (key_le_total key) keyed
    List.filter_sublist).filter (key · == k)
  rw [List.filter_filter] at kept
  simp only [Bool.and_self] at kept
  exact (kept.eq_of_length ((List.mergeSort_perm l _).filter _).length_eq.symm).symm

variable {key}

/-- The head of a list ascending by key has the least key among the items of
any list with the same items of each key. -/
theorem List.key_head_le {z u : α} {l l' : List α} (sorted : (z :: l).Pairwise fun x y => key x ≤ key y)
    (agree : ∀ k, l'.filter (key · == k) = (z :: l).filter (key · == k)) (mem : u ∈ l') : key z ≤ key u := by
  have found : u ∈ (z :: l).filter (key · == key u) := by
    rw [← agree]
    exact List.mem_filter.mpr ⟨mem, by simp⟩
  rcases List.mem_cons.mp (List.mem_filter.mp found).1 with rfl | later
  · exact le_rfl
  · exact List.rel_of_pairwise_cons sorted later

/-- Two lists ascending by key that agree on the items of every key are the
same list. -/
theorem List.eq_of_filter_key_eq {a b : List α} (sortedA : a.Pairwise fun x y => key x ≤ key y)
    (sortedB : b.Pairwise fun x y => key x ≤ key y)
    (same : ∀ k, a.filter (key · == k) = b.filter (key · == k)) : a = b := by
  induction a generalizing b with
  | nil =>
    cases b with
    | nil => rfl
    | cons y rest => simpa using same (key y)
  | cons x rest ih =>
    cases b with
    | nil => simpa using same (key x)
    | cons y rest' =>
      -- each head has the least key of both lists, so the heads share a key
      have xy : key x ≤ key y := List.key_head_le sortedA (fun k => (same k).symm) List.mem_cons_self
      have yx : key y ≤ key x := List.key_head_le sortedB same List.mem_cons_self
      have atHead := same (key x)
      simp only [List.filter_cons, beq_self_eq_true, if_true, le_antisymm yx xy] at atHead
      obtain ⟨rfl, -⟩ := List.cons.inj atHead
      have rests : ∀ k, rest.filter (key · == k) = rest'.filter (key · == k) := by
        intro k
        have := same k
        by_cases hit : key x = k <;> simpa [List.filter_cons, hit] using this
      rw [ih (List.pairwise_cons.mp sortedA).2 (List.pairwise_cons.mp sortedB).2 rests]

end Key

end ModelSync
