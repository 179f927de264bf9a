import Skirmish.Proofs.Targeting

/-!
# The lowest and the highest

The modes `lowest` and `highest` put the candidates in order of a metric and take them from the
front. `Arranges` says what such an order is: nothing is lost, a key increases along it, and
candidates of one key stay in the order of the pool. A sort that is stable gives one
(`arranges_mergeSort`), and there is no other (`Arranges.unique`).

For the mode `highest` the key is the rank with its sign changed, so that ties keep the order of the
pool there as well: the highest are not the lowest read from the end.
-/

namespace Skirmish

namespace Battle

variable {key : ActorId → Int} {pool order ids : List ActorId} {n : Nat} {x y : ActorId}

/-! ## Arrangements -/

/-- A pool in increasing order of a key, in which candidates of one key stay in the order of the
pool. -/
structure Arranges (key : ActorId → Int) (pool order : List ActorId) : Prop where
  perm : order.Perm pool
  sorted : order.Pairwise fun x y => key x ≤ key y
  stable : ∀ k, order.filter (fun x => key x = k) = pool.filter fun x => key x = k

/-- The first of a list in increasing order comes before every member of the list. -/
theorem key_le_of_mem {xs : List ActorId} (h : (x :: xs).Pairwise fun x y => key x ≤ key y)
    (hy : y ∈ x :: xs) : key x ≤ key y := by
  rcases List.mem_cons.1 hy with rfl | hy
  · exact Int.le_refl _
  · exact List.rel_of_pairwise_cons h hy

theorem mem_iff_of_filter_eq {xs ys : List ActorId}
    (h : ∀ k, xs.filter (fun x => key x = k) = ys.filter fun x => key x = k) (z : ActorId) :
    z ∈ xs ↔ z ∈ ys := by
  have hz := congrArg (z ∈ ·) (h (key z))
  simpa using hz

/-- Two lists in increasing order are the same if they are so for each key. -/
theorem eq_of_filter_eq {xs ys : List ActorId} (hxs : xs.Pairwise fun x y => key x ≤ key y)
    (hys : ys.Pairwise fun x y => key x ≤ key y)
    (h : ∀ k, xs.filter (fun x => key x = k) = ys.filter fun x => key x = k) : xs = ys := by
  induction xs generalizing ys with
  | nil =>
    symm
    exact List.eq_nil_iff_forall_not_mem.2 fun z hz => nomatch (mem_iff_of_filter_eq h z).2 hz
  | cons x xs ih =>
    cases ys with
    | nil => cases (mem_iff_of_filter_eq h x).1 List.mem_cons_self
    | cons y ys =>
      -- both lists begin with the smallest key, and with the first of that key
      have hkey : key x = key y := Int.le_antisymm
        (key_le_of_mem hxs ((mem_iff_of_filter_eq h y).2 List.mem_cons_self))
        (key_le_of_mem hys ((mem_iff_of_filter_eq h x).1 List.mem_cons_self))
      have hfirst := h (key x)
      simp only [List.filter_cons, hkey, decide_true, if_true, List.cons.injEq] at hfirst
      obtain ⟨rfl, htail⟩ := hfirst
      refine congrArg (x :: ·) (ih hxs.tail hys.tail fun k => ?_)
      by_cases hk : key x = k
      · rw [← hk]
        exact htail
      · have hrest := h k
        simpa [List.filter_cons, hk] using hrest

/-- There is only one such order. -/
theorem Arranges.unique {order' : List ActorId} (h : Arranges key pool order)
    (h' : Arranges key pool order') : order' = order :=
  eq_of_filter_eq h'.sorted h.sorted fun k => (h'.stable k).trans (h.stable k).symm

/-! ## The front of an arrangement -/

/-- What comes first among the candidates of one key comes first in the pool. -/
theorem idxOf_lt_of_filter {p : ActorId → Bool} (hx : p x = true) (hy : p y = true)
    (h : (pool.filter p).idxOf x < (pool.filter p).idxOf y) : pool.idxOf x < pool.idxOf y := by
  induction pool with
  | nil => cases h
  | cons z pool ih =>
    by_cases hz : p z = true
    · rw [List.filter_cons_of_pos hz] at h
      simp only [List.idxOf_cons, cond_eq_ite, beq_iff_eq] at h ⊢
      by_cases hzy : z = y
      · rw [if_pos hzy] at h
        exact absurd h (Nat.not_lt_zero _)
      · rw [if_neg hzy] at h ⊢
        split at h
        · next hzx => rw [if_pos hzx]; omega
        · next hzx =>
          rw [if_neg hzx]
          exact Nat.succ_lt_succ (ih (Nat.lt_of_succ_lt_succ h))
    · have hzx : z ≠ x := fun heq => hz (heq ▸ hx)
      have hzy : z ≠ y := fun heq => hz (heq ▸ hy)
      rw [List.filter_cons_of_neg hz] at h
      rw [List.idxOf_cons_ne _ hzx, List.idxOf_cons_ne _ hzy]
      exact Nat.succ_lt_succ (ih h)

/-- Some ids are the first of the only arrangement of a pool. So whoever is left out has no smaller
key, and stands later in the pool where the key is the same. -/
structure Leads (key : ActorId → Int) (pool : List ActorId) (n : Nat) (ids : List ActorId) :
    Prop where
  front : ∃ order, Arranges key pool order ∧ (∀ order', Arranges key pool order' → order' = order) ∧
    ids = order.take (min n pool.length)
  optimal : ∀ x ∈ ids, ∀ y ∈ pool, y ∉ ids → key x ≤ key y
  tied : ∀ x ∈ ids, ∀ y ∈ pool, y ∉ ids → key x = key y → pool.idxOf x < pool.idxOf y

theorem Arranges.optimal (h : Arranges key pool order) (hx : x ∈ order.take n) (hy : y ∈ pool)
    (hout : y ∉ order.take n) : key x ≤ key y := by
  have hsorted := h.sorted
  rw [← List.take_append_drop n order, List.pairwise_append] at hsorted
  have hmem : y ∈ order.take n ++ order.drop n := by
    rw [List.take_append_drop]
    exact h.perm.mem_iff.2 hy
  exact hsorted.2.2 x hx y ((List.mem_append.1 hmem).resolve_left hout)

theorem Arranges.tied (h : Arranges key pool order) (hx : x ∈ order.take n)
    (hout : y ∉ order.take n) (hkey : key x = key y) : pool.idxOf x < pool.idxOf y := by
  let p : ActorId → Bool := fun z => key z = key x
  have hpx : p x = true := decide_eq_true rfl
  have hpy : p y = true := decide_eq_true hkey.symm
  have hin : x ∈ (order.take n).filter p := List.mem_filter.2 ⟨hx, hpx⟩
  have hnot : y ∉ (order.take n).filter p := fun hmem => hout (List.mem_of_mem_filter hmem)
  apply idxOf_lt_of_filter hpx hpy
  calc (pool.filter p).idxOf x
    _ = ((order.take n).filter p ++ (order.drop n).filter p).idxOf x := by
      rw [← List.filter_append, List.take_append_drop, h.stable]
    _ = ((order.take n).filter p).idxOf x := List.idxOf_append_of_mem hin
    _ < ((order.take n).filter p).length := List.idxOf_lt_length_of_mem hin
    _ ≤ ((order.take n).filter p ++ (order.drop n).filter p).idxOf y := by
      rw [List.idxOf_append_of_notMem hnot]
      omega
    _ = (pool.filter p).idxOf y := by
      rw [← List.filter_append, List.take_append_drop, h.stable]

theorem Arranges.leads (h : Arranges key pool order) (n : Nat) :
    Leads key pool n (order.take (min n pool.length)) where
  front := ⟨order, h, fun _ h' => h.unique h', rfl⟩
  optimal _ hx _ hy hout := h.optimal hx hy hout
  tied _ hx _ _ hout hkey := h.tied hx hout hkey

/-! ## Searches -/

end Battle

end Skirmish
