import Skirmish.Proofs.Taunts

/-!
# Targets that a caller names

A caller that names targets replaces the choice of the mode, unless the selector aims at the acting
actor itself or at all candidates. The names are gone through one by one, with those picked so far
at hand, until there are enough. `pickNamed_eq` says what comes of this: the names that are allowed,
each at its first place and in the order of the caller, up to the number that is asked for.

`named_in_order` says so of a whole search that no taunt forces.
-/

namespace Skirmish

namespace Battle

/-! ## One by one -/

section

variable {allowed : ActorId → Bool} {n : Nat}

/-- Without further mentions of a name, what has not been picked is what will not have been picked
once the name is. -/
theorem filter_unpicked (id : ActorId) (picked ids : List ActorId) :
    (ids.filter fun x => allowed x && !picked.contains x).filter (fun x => !x == id) =
      ids.filter fun x => allowed x && !(id :: picked).contains x := by
  rw [List.filter_filter]
  refine List.filter_congr fun x _ => ?_
  rw [List.contains_cons, Bool.not_or, Bool.and_left_comm]

/-- Some are picked already; of the names to come, those count that are allowed and not among
them. -/
theorem pickNamed_append {picked : List ActorId} (hroom : picked.length ≤ n) (ids : List ActorId) :
    pickNamed allowed n picked ids = picked.reverse ++
      (ids.filter fun x => allowed x && !picked.contains x).eraseDups.take (n - picked.length) := by
  induction ids generalizing picked with
  | nil => rw [pickNamed, List.filter_nil, List.eraseDups_nil, List.take_nil, List.append_nil]
  | cons id ids ih =>
    have hskips : (picked.contains id || !allowed id) = !(allowed id && !picked.contains id) := by
      rw [Bool.not_and, Bool.not_not, Bool.or_comm]
    rw [pickNamed, hskips]
    split
    · next hfull => rw [hfull, Nat.sub_self, List.take_zero, List.append_nil]
    · next hmore =>
      cases hcounts : allowed id && !picked.contains id with
      | false =>
        rw [Bool.not_false, if_pos rfl, ih hroom, List.filter_cons, hcounts,
          if_neg Bool.false_ne_true]
      | true =>
        have hroom' : (id :: picked).length ≤ n := by
          rw [List.length_cons]
          omega
        have hleft : n - picked.length = n - (id :: picked).length + 1 := by
          rw [List.length_cons]
          omega
        rw [Bool.not_true, if_neg Bool.false_ne_true, ih hroom', List.filter_cons, hcounts,
          if_pos rfl, List.eraseDups_cons, filter_unpicked, hleft, List.take_succ_cons,
          List.reverse_cons, List.append_assoc, List.singleton_append]

/-- The names that are allowed, each at its first place, as many as are asked for. -/
theorem pickNamed_eq (allowed : ActorId → Bool) (n : Nat) (ids : List ActorId) :
    pickNamed allowed n [] ids = (ids.filter allowed).eraseDups.take n := by
  have hall : (fun x => allowed x && !([] : List ActorId).contains x) = allowed := by
    funext x
    rw [List.contains_nil, Bool.not_false, Bool.and_true]
  rw [pickNamed_append (Nat.zero_le n), hall, List.length_nil, Nat.sub_zero, List.reverse_nil,
    List.nil_append]

end

/-! ## Searches -/

variable {b : Battle} {s : Selector} {acting : ActorId} {named : List ActorId}

/-- Whom a caller may name: a candidate, which meets the condition where that is the mode. -/
theorem mayName_iff {pool : List ActorId} {id : ActorId} :
    b.mayName s pool id = true ↔ id ∈ pool ∧ (s.mode = .condition → b.meets s id = true) := by
  rw [mayName, Bool.and_eq_true, List.contains_iff_mem, Bool.or_eq_true, bne_iff_ne, ne_eq,
    imp_iff_not_or]

theorem freeTargets_of_named (hs : s.takesExplicit = true) (hnamed : named ≠ []) :
    (b.freeTargets s acting named).1 =
      (named.filter (b.mayName s (b.pool s acting))).eraseDups.take
        (min s.count (b.pool s acting).length) := by
  unfold freeTargets
  dsimp only
  split
  · next hnone => rw [List.isEmpty_iff.1 hnone, List.length_nil, Nat.min_zero, List.take_zero]
  · have hsome : (!named.isEmpty && s.takesExplicit) = true := by
      rw [hs, Bool.and_true, Bool.not_eq_true', List.isEmpty_eq_false_iff]
      exact hnamed
    rw [if_pos hsome]
    exact pickNamed_eq ..

/-- Where the selector takes no names, it does not matter who is named. -/
theorem resolveTargets_of_not_takesExplicit (hs : s.takesExplicit = false) (acting : ActorId)
    (named : List ActorId) : b.resolveTargets s acting named = b.resolveTargets s acting [] := by
  have hfree : ∀ c : Battle, c.freeTargets s acting named = c.freeTargets s acting [] := by
    intro c
    simp only [freeTargets, hs, Bool.and_false, Bool.false_eq_true, if_false]
  simp only [resolveTargets, hfree]

/-- **What a search finds for a caller that names targets.** Where no taunt forces the acting actor
and the mode is not one that takes no names, the targets are those named that are candidates and, in
the mode `condition`, meet the condition: each at its first place, in the order of the caller, and
as many as the count of the selector and the number of candidates allow. Nothing is drawn; all that
becomes of the battle is that a search that a taunt could have bound drops the taunt. In the modes
`oneself` and `all` a search finds, and leaves of the battle, what it does when no one is named. -/
theorem named_in_order (hfree : b.Unforced s acting) (hnamed : named ≠ []) :
    (s.mode ≠ .oneself ∧ s.mode ≠ .all →
      b.resolveTargets s acting named =
        ((named.filter fun id =>
            id ∈ b.pool s acting ∧ (s.mode = .condition → b.meets s id = true)).eraseDups.take
          (min s.count (b.pool s acting).length),
        { b with taunts := if s.yieldsToTaunt then b.taunts.erase acting else b.taunts })) ∧
      (s.mode = .oneself ∨ s.mode = .all →
        b.resolveTargets s acting named = b.resolveTargets s acting []) := by
  refine ⟨fun hmode => ?_, fun hmode => ?_⟩
  · have hs : s.takesExplicit = true := by
      simpa [Selector.takesExplicit] using hmode
    have hallowed : b.mayName s (b.pool s acting) = fun id =>
        decide (id ∈ b.pool s acting ∧ (s.mode = .condition → b.meets s id = true)) := by
      funext id
      rw [Bool.eq_iff_iff, decide_eq_true_iff, mayName_iff]
    have hundrawn : b.draws s acting named = 0 := if_neg fun h => hnamed h.2
    rw [hfree.resolveTargets, freeTargets_of_named hs hnamed, hallowed, hundrawn]
    rfl
  · refine resolveTargets_of_not_takesExplicit ?_ acting named
    rw [Selector.takesExplicit, Bool.not_eq_false', Bool.or_eq_true, beq_iff_eq, beq_iff_eq]
    exact hmode

/-- A caller names the wolf twice, and with it a stranger, the hero itself and the slime. For the
hero, whose taunt by a ghost does not bind, the wolf and then the slime are found, though the mode
is to draw two foes; the seed stays where it is and the taunt is dropped. -/
theorem wolf_and_slime_as_named :
    let b : Battle := { ambush with taunts := Table.empty.insert "hero" ⟨"ghost", 2⟩ }
    let anyTwoFoes : Selector := { pool := .foes, mode := .random, count := 2 }
    b.Unforced anyTwoFoes "hero" ∧
      b.resolveTargets anyTwoFoes "hero" ["wolf", "bear", "wolf", "hero", "slime"] =
        (["wolf", "slime"], { b with taunts := ∅ }) := by
  intro b anyTwoFoes
  have hfree : b.Unforced anyTwoFoes "hero" := by
    intro _ t ht
    obtain rfl := Option.some.inj ht
    decide +kernel
  refine ⟨hfree, ?_⟩
  rw [(named_in_order hfree (List.cons_ne_nil _ _)).1 (by decide)]
  decide +kernel

end Battle

end Skirmish
