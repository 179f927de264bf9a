import Mathlib.Data.List.Nodup
import Skirmish.Battle.Targets

/-!
# What a search for targets finds and changes

Where no taunt forces the choice, a search finds members of the pool only (`mem_freeTargets`), and
it names each one once if the pool does (`nodup_freeTargets`). When no one is named, the mode and
the pool say how many are found (`length_freeTargets`); the mode `random` draws them one after the
other, each at an index into those that are left (`Draws`).

A search reads the battle and changes no more than two things of it: the draws of the mode `random`
move the seed on, and a taunt that does not bind, as its source is down, is dropped from the acting
actor (`resolveTargets_battle`).
-/

namespace Skirmish

namespace Battle

/-! ## Ids that a caller names -/

section Named

variable {allowed : ActorId → Bool} {n : Nat} {picked ids : List ActorId}

theorem mem_pickNamed {x : ActorId} (h : x ∈ pickNamed allowed n picked ids) :
    x ∈ picked ∨ allowed x = true := by
  induction ids generalizing picked with
  | nil => exact .inl (List.mem_reverse.1 h)
  | cons id ids ih =>
    rw [pickNamed] at h
    split at h
    · exact .inl (List.mem_reverse.1 h)
    · split at h
      · exact ih h
      · next hallowed =>
        rcases ih h with hpicked | hx
        · rcases List.mem_cons.1 hpicked with rfl | hpicked
          · simp only [Bool.or_eq_true, not_or, Bool.not_eq_true', Bool.not_eq_false] at hallowed
            exact .inr hallowed.2
          · exact .inl hpicked
        · exact .inr hx

theorem nodup_pickNamed (h : picked.Nodup) : (pickNamed allowed n picked ids).Nodup := by
  induction ids generalizing picked with
  | nil => exact List.nodup_reverse.2 h
  | cons id ids ih =>
    rw [pickNamed]
    split
    · exact List.nodup_reverse.2 h
    · split
      · exact ih h
      · next hnew =>
        refine ih (List.nodup_cons.2 ⟨fun hmem => hnew ?_, h⟩)
        rw [List.contains_iff_mem.2 hmem, Bool.true_or]

end Named

/-! ## Draws -/

/-- Some actors are drawn from a pool one after the other. Each draw is one step of the generator;
it gives an index in range, and the actor that stands there leaves the pool. -/
inductive Draws : List ActorId → Seed → List ActorId → Seed → Prop where
  | stop (pool : List ActorId) (seed : Seed) : Draws pool seed [] seed
  | next {pool ids : List ActorId} {seed last : Seed} {i : Nat}
      (hindex : seed.index pool.length = (i, seed.step.1)) (hrange : i < pool.length)
      (rest : Draws (pool.eraseIdx i) seed.step.1 ids last) : Draws pool seed (pool[i] :: ids) last

section Draws

variable {pool ids : List ActorId} {seed last : Seed} {n : Nat}

theorem pickRandom_nil (n : Nat) (seed : Seed) : pickRandom n [] seed = ([], seed) := by
  cases n <;> rfl

theorem pickRandom_succ (h : (seed.index pool.length).1 < pool.length) (n : Nat) :
    pickRandom (n + 1) pool seed =
      let rest := pickRandom n (pool.eraseIdx (seed.index pool.length).1) seed.step.1
      (pool[(seed.index pool.length).1] :: rest.1, rest.2) := by
  simp only [pickRandom, List.getElem?_eq_getElem h, Seed.index_seed (Nat.zero_lt_of_lt h)]

theorem draws_pickRandom (n : Nat) (pool : List ActorId) (seed : Seed) :
    Draws pool seed (pickRandom n pool seed).1 (pickRandom n pool seed).2 := by
  induction n generalizing pool seed with
  | zero => exact .stop ..
  | succ n ih =>
    rcases Nat.eq_zero_or_pos pool.length with hzero | hpos
    · rw [List.length_eq_zero_iff.1 hzero, pickRandom_nil]
      exact .stop ..
    · have hrange := Seed.index_lt hpos seed
      rw [pickRandom_succ hrange]
      exact .next (Prod.ext rfl (Seed.index_seed hpos seed)) hrange (ih ..)

theorem length_pickRandom (n : Nat) (pool : List ActorId) (seed : Seed) :
    (pickRandom n pool seed).1.length = min n pool.length := by
  induction n generalizing pool seed with
  | zero => rw [Nat.zero_min]; rfl
  | succ n ih =>
    rcases Nat.eq_zero_or_pos pool.length with hzero | hpos
    · rw [hzero, Nat.min_zero, List.length_eq_zero_iff.1 hzero, pickRandom_nil]
      rfl
    · have hrange := Seed.index_lt hpos seed
      rw [pickRandom_succ hrange]
      simp only [List.length_cons, ih, List.length_eraseIdx_of_lt hrange]
      omega

theorem Draws.last_eq (h : Draws pool seed ids last) : last = seed.advance ids.length := by
  induction h with
  | stop => rfl
  | next _ _ _ ih => exact ih

theorem Draws.mem (h : Draws pool seed ids last) {x : ActorId} (hx : x ∈ ids) : x ∈ pool := by
  induction h with
  | stop => cases hx
  | next _ _ _ ih =>
    rcases List.mem_cons.1 hx with rfl | hx
    · exact List.getElem_mem _
    · exact List.mem_of_mem_eraseIdx (ih hx)

theorem Draws.nodup (h : Draws pool seed ids last) (hpool : pool.Nodup) : ids.Nodup := by
  induction h with
  | stop => exact List.nodup_nil
  | next _ hrange rest ih =>
    refine List.nodup_cons.2 ⟨fun hmem => ?_, ih (hpool.eraseIdx _)⟩
    obtain ⟨j, hj, hne, heq⟩ := List.mem_eraseIdx_iff_getElem.1 (rest.mem hmem)
    exact hne ((hpool.getElem_inj_iff).1 heq)

theorem pickRandom_seed (n : Nat) (pool : List ActorId) (seed : Seed) :
    (pickRandom n pool seed).2 = seed.advance (min n pool.length) := by
  rw [(draws_pickRandom n pool seed).last_eq, length_pickRandom]

end Draws

/-! ## Finds -/

section Finds

variable {b : Battle} {s : Selector} {n : Nat} {pool named : List ActorId} {acting x : ActorId}

theorem mem_pick (h : x ∈ (b.pick s n pool).1) : x ∈ pool := by
  unfold pick at h
  split at h
  · exact List.mem_of_mem_take h
  · exact List.mem_of_mem_take h
  · exact h
  · exact (draws_pickRandom ..).mem h
  · exact List.mem_mergeSort.1 (List.mem_of_mem_take h)
  · exact List.mem_mergeSort.1 (List.mem_of_mem_take h)
  · exact List.mem_of_mem_filter (List.mem_of_mem_take h)

theorem nodup_pick (h : pool.Nodup) : (b.pick s n pool).1.Nodup := by
  have hsorted : ∀ le, (pool.mergeSort le).Nodup := fun le =>
    (List.mergeSort_perm pool le).nodup_iff.2 h
  unfold pick
  split
  · exact h.take
  · exact h.take
  · exact h
  · exact (draws_pickRandom ..).nodup h
  · exact (hsorted _).take
  · exact (hsorted _).take
  · exact (h.filter _).take

/-- Without a taunt a search finds members of the pool. -/
theorem mem_freeTargets (h : x ∈ (b.freeTargets s acting named).1) : x ∈ b.pool s acting := by
  unfold freeTargets at h
  dsimp only at h
  split at h
  · cases h
  · split at h
    · rcases mem_pickNamed h with hnone | hallowed
      · cases hnone
      · simp only [mayName, Bool.and_eq_true, List.contains_iff_mem] at hallowed
        exact hallowed.1
    · exact mem_pick h

theorem nodup_freeTargets (h : (b.pool s acting).Nodup) :
    (b.freeTargets s acting named).1.Nodup := by
  unfold freeTargets
  dsimp only
  split
  · exact List.nodup_nil
  · split
    · exact nodup_pickNamed List.nodup_nil
    · exact nodup_pick h

end Finds

/-! ## Searches in which no one is named -/

theorem length_pick (b : Battle) (s : Selector) (n : Nat) (pool : List ActorId) :
    (b.pick s n pool).1.length =
      match s.mode with
      | .oneself | .single => min 1 pool.length
      | .all => pool.length
      | .random | .lowest | .highest => min n pool.length
      | .condition => min n (pool.countP (b.meets s)) := by
  unfold pick
  cases s.mode with
  | oneself | single => exact List.length_take
  | all => rfl
  | random => exact length_pickRandom ..
  | lowest => simp [increasing]
  | highest => simp [decreasing]
  | condition => simp [List.countP_eq_length_filter]

/-- A search in which no one is named picks from the pool, even from an empty one. -/
theorem freeTargets_nil (b : Battle) (s : Selector) (acting : ActorId) :
    b.freeTargets s acting [] =
      b.pick s (min s.count (b.pool s acting).length) (b.pool s acting) := by
  unfold freeTargets
  dsimp only
  split
  · next hnone =>
    rw [List.isEmpty_iff.1 hnone, List.length_nil, Nat.min_zero]
    unfold pick
    cases s.mode <;> simp [pickRandom, increasing, decreasing]
  · rfl

theorem length_freeTargets (b : Battle) (s : Selector) (acting : ActorId) :
    (b.freeTargets s acting []).1.length =
      match s.mode with
      | .oneself | .single => min 1 (b.pool s acting).length
      | .all => (b.pool s acting).length
      | .random | .lowest | .highest => min s.count (b.pool s acting).length
      | .condition => min s.count ((b.pool s acting).countP (b.meets s)) := by
  have hcount := List.countP_le_length (p := b.meets s) (l := b.pool s acting)
  rw [freeTargets_nil, length_pick]
  cases s.mode with
  | oneself | single | all => rfl
  | random | lowest | highest | condition =>
    dsimp only
    omega

/-! ## What is left of the battle -/

theorem pick_battle (b : Battle) (s : Selector) (n : Nat) (pool : List ActorId) :
    (b.pick s n pool).2 =
      { b with seed := b.seed.advance (if s.mode = .random then min n pool.length else 0) } := by
  unfold pick
  cases s.mode with
  | random => exact congrArg (fun seed => { b with seed := seed }) (pickRandom_seed ..)
  | _ => rfl

/-- The number of draws of a search that no taunt forces. -/
def draws (b : Battle) (s : Selector) (acting : ActorId) (named : List ActorId) : Nat :=
  if s.mode = .random ∧ named = [] then min s.count (b.pool s acting).length else 0

theorem freeTargets_battle (b : Battle) (s : Selector) (acting : ActorId)
    (named : List ActorId) :
    (b.freeTargets s acting named).2 =
      { b with seed := b.seed.advance (b.draws s acting named) } := by
  unfold freeTargets draws
  dsimp only
  split
  · next hnone => simp [List.isEmpty_iff.1 hnone, Seed.advance]
  · split
    · next hnamed =>
      have hne : named ≠ [] := by
        rintro rfl
        cases hnamed
      rw [if_neg fun h => hne h.2]
      rfl
    · next hpicked =>
      rw [pick_battle]
      by_cases hmode : s.mode = .random
      · have hnil : named = [] := by simpa [Selector.takesExplicit, hmode] using hpicked
        rw [if_pos hmode, if_pos ⟨hmode, hnil⟩, Nat.min_assoc, Nat.min_self]
      · rw [if_neg hmode, if_neg fun h => hmode h.1]

/-- A search moves the seed on and may drop a taunt on the acting actor that does not bind, and that
is all. -/
theorem resolveTargets_battle (b : Battle) (s : Selector) (acting : ActorId)
    (named : List ActorId) :
    ∃ m taunts, (b.resolveTargets s acting named).2 =
        { b with seed := b.seed.advance m, taunts := taunts } ∧
      (taunts = b.taunts ∨
        b.forcedTarget? acting = none ∧ taunts = b.taunts.erase acting) := by
  unfold resolveTargets
  split
  · split
    · exact ⟨0, b.taunts, rfl, .inl rfl⟩
    · next hfree =>
      exact ⟨_, b.taunts.erase acting, (b.dropTaunt acting).freeTargets_battle s acting named,
        .inr ⟨hfree, rfl⟩⟩
  · exact ⟨_, b.taunts, b.freeTargets_battle s acting named, .inl rfl⟩

/-! ## Searches that no taunt forces -/

/-- No taunt by a living actor forces the choice of the acting actor. -/
def Unforced (b : Battle) (s : Selector) (acting : ActorId) : Prop :=
  s.yieldsToTaunt = true → ∀ t, b.taunts.get? acting = some t → b.isAlive t.source = false

theorem Unforced.forcedTarget? {b : Battle} {s : Selector} {acting : ActorId}
    (h : b.Unforced s acting) (hs : s.yieldsToTaunt = true) : b.forcedTarget? acting = none := by
  unfold Battle.forcedTarget?
  cases ht : b.taunts.get? acting with
  | none => rfl
  | some t => simp [h hs t ht]

theorem freeTargets_dropTaunt (b : Battle) (s : Selector) (acting : ActorId)
    (named : List ActorId) :
    ((b.dropTaunt acting).freeTargets s acting named).1 = (b.freeTargets s acting named).1 := by
  have hpool : (b.dropTaunt acting).pool s acting = b.pool s acting := rfl
  have hpick : ∀ n pool, ((b.dropTaunt acting).pick s n pool).1 = (b.pick s n pool).1 := by
    intro n pool
    unfold pick
    cases s.mode <;> rfl
  unfold freeTargets
  simp only [hpool]
  split
  · rfl
  · split
    · rfl
    · exact hpick ..

/-- A search that no taunt forces finds what it finds without taunts; one for foes or anyone drops
the taunt on the acting actor. -/
theorem Unforced.resolveTargets {b : Battle} {s : Selector} {acting : ActorId}
    (h : b.Unforced s acting) (named : List ActorId) :
    b.resolveTargets s acting named =
      ((b.freeTargets s acting named).1,
        { b with
          seed := b.seed.advance (b.draws s acting named)
          taunts := if s.yieldsToTaunt then b.taunts.erase acting else b.taunts }) := by
  unfold Battle.resolveTargets
  cases hs : s.yieldsToTaunt with
  | false => exact Prod.ext rfl (b.freeTargets_battle s acting named)
  | true =>
    rw [if_pos rfl, if_pos rfl, h.forcedTarget? hs]
    exact Prod.ext (b.freeTargets_dropTaunt ..)
      ((b.dropTaunt acting).freeTargets_battle s acting named)

end Battle

end Skirmish
