import Skirmish.Proofs.Fallen

/-!
# Searches that no taunt forces

In a rostered battle the actors that a pool names are distinct (`Rostered.nodup_membersOf`), so a
search finds each target once. When no one is named, the mode says in what order targets are found
(`freeTargets_of_all`, `freeTargets_of_condition`) and by which draws (`draws_freeTargets`).

`finds_exactly` puts this together with the number of targets and with what is left of the battle.
-/

namespace Skirmish

namespace Battle

variable {b b' : Battle} {s : Selector} {acting x : ActorId} {named ids : List ActorId} {own : Side}

/-! ## The actors that a pool names -/

theorem Rostered.nodup_roster (h : b.Rostered) (side : Side) : (b.roster side).Nodup := by
  cases side with
  | player => exact h.players
  | enemy => exact h.enemies

theorem Rostered.disjoint_roster (h : b.Rostered) (side : Side) :
    (b.roster side).Disjoint (b.roster side.opponent) := by
  cases side with
  | player => exact h.disjoint
  | enemy => exact h.disjoint.symm

theorem Rostered.sideOf?_eq (h : b.Rostered) {side : Side} (hx : x ∈ b.roster side) :
    b.sideOf? x = some side := by
  cases side with
  | player =>
    have hplayer : x ∈ b.players := hx
    simp [Battle.sideOf?, hplayer]
  | enemy =>
    have henemy : x ∈ b.enemies := hx
    have hplayer : x ∉ b.players := fun hplayer => h.disjoint hplayer henemy
    simp [Battle.sideOf?, hplayer, henemy]

theorem Rostered.nodup_membersOf (h : b.Rostered) (hacting : acting ∈ b.roster own)
    (p : Selector.Pool) : (b.membersOf p acting own).Nodup := by
  cases p with
  | oneself => exact List.nodup_singleton acting
  | allies => exact h.nodup_roster own
  | foes => exact h.nodup_roster own.opponent
  | anyone =>
    have hdisjoint := h.disjoint_roster own
    change (acting :: ((b.roster own).filter (· != acting) ++ b.roster own.opponent)).Nodup
    refine List.nodup_cons.2 ⟨fun hmem => ?_, List.nodup_append'.2
      ⟨(h.nodup_roster own).filter _, h.nodup_roster own.opponent, fun y hy hfoe => ?_⟩⟩
    · rcases List.mem_append.1 hmem with hown | hfoe
      · simp at hown
      · exact hdisjoint hacting hfoe
    · exact hdisjoint (List.mem_of_mem_filter hy) hfoe

theorem pool_of_sideOf? (h : b.sideOf? acting = some own) (s : Selector) :
    b.pool s acting =
      (b.membersOf s.pool acting own).filter fun id => s.includeDead || b.isAlive id := by
  rw [pool, h]

/-! ## Searches in which no one is named -/

theorem freeTargets_of_all (hmode : s.mode = .all) (acting : ActorId) :
    (b.freeTargets s acting []).1 = b.pool s acting := by
  simp only [freeTargets_nil, pick, hmode]

theorem freeTargets_of_condition (hmode : s.mode = .condition) (acting : ActorId) :
    (b.freeTargets s acting []).1 = ((b.pool s acting).filter (b.meets s)).take s.count := by
  have hcount := List.length_filter_le (b.meets s) (b.pool s acting)
  simp only [freeTargets_nil, pick, hmode]
  rw [List.take_eq_take_iff]
  omega

theorem draws_freeTargets (hmode : s.mode = .random) (acting : ActorId) :
    Draws (b.pool s acting) b.seed (b.freeTargets s acting []).1
      (b.freeTargets s acting []).2.seed := by
  simp only [freeTargets_nil, pick, hmode]
  exact draws_pickRandom ..

/-! ## All searches -/

/-- In the mode `condition` whoever is found meets the condition, named or not. -/
theorem meets_of_mem_freeTargets (hmode : s.mode = .condition)
    (h : x ∈ (b.freeTargets s acting named).1) : b.meets s x = true := by
  unfold freeTargets at h
  dsimp only at h
  split at h
  · cases h
  · split at h
    · rcases mem_pickNamed h with hnone | hallowed
      · cases hnone
      · simp only [mayName, hmode, Bool.and_eq_true, bne_self_eq_false, Bool.false_or] at hallowed
        exact hallowed.2
    · simp only [pick, hmode] at h
      exact List.of_mem_filter (List.mem_of_mem_take h)

/-- **What a search finds that no taunt forces.** For an actor of a rostered battle, `side` lists
whom the selector's pool names and `pool` the candidates among them. Whoever is found is found once,
stands in `side`, is alive where the dead are left out, and meets the condition in the mode
`condition`. When no one is named, the mode says how many are found, in what order and by which
draws. Of the battle only the seed is moved on, by as many steps as there are draws, and the taunt
on the acting actor is dropped by a search that it could have bound. -/
theorem finds_exactly (hb : b.Rostered) (hacting : acting ∈ b.roster own)
    (hfree : b.Unforced s acting) (h : b.resolveTargets s acting named = (ids, b')) :
    ∃ side pool : List ActorId,
      side = (match s.pool with
        | .oneself => [acting]
        | .allies => b.roster own
        | .foes => b.roster own.opponent
        | .anyone => acting :: (b.roster own).filter (· != acting) ++ b.roster own.opponent) ∧
      pool = side.filter (fun id => s.includeDead || b.isAlive id) ∧
      (ids.Nodup ∧ ∀ id ∈ ids, id ∈ side ∧ (s.includeDead = true ∨ b.isAlive id = true) ∧
        (s.mode = .condition → b.meets s id = true)) ∧
      (named = [] →
        ids.length = (match s.mode with
          | .oneself | .single => min 1 pool.length
          | .all => pool.length
          | .random | .lowest | .highest => min s.count pool.length
          | .condition => min s.count (pool.countP (b.meets s))) ∧
        (s.mode = .all → ids = pool) ∧
        (s.mode = .condition → ids = (pool.filter (b.meets s)).take s.count) ∧
        (s.mode = .random → Draws pool b.seed ids b'.seed)) ∧
      b' = { b with
        seed := b.seed.advance
          (if s.mode = .random ∧ named = [] then min s.count pool.length else 0)
        taunts :=
          if s.pool = .foes ∨ s.pool = .anyone then b.taunts.erase acting else b.taunts } := by
  have hpool := pool_of_sideOf? (hb.sideOf?_eq hacting) s
  obtain ⟨rfl, rfl⟩ := Prod.mk.inj ((hfree.resolveTargets named).symm.trans h)
  refine ⟨b.membersOf s.pool acting own, b.pool s acting, rfl, hpool, ⟨?_, fun id hid => ?_⟩, ?_,
    ?_⟩
  · apply nodup_freeTargets
    rw [hpool]
    exact (hb.nodup_membersOf hacting s.pool).filter _
  · have hmem := mem_freeTargets hid
    rw [hpool, List.mem_filter, Bool.or_eq_true] at hmem
    exact ⟨hmem.1, hmem.2, fun hmode => meets_of_mem_freeTargets hmode hid⟩
  · rintro rfl
    refine ⟨b.length_freeTargets s acting, fun hmode => freeTargets_of_all hmode acting,
      fun hmode => freeTargets_of_condition hmode acting, fun hmode => ?_⟩
    have hdraws := draws_freeTargets (b := b) hmode acting
    rwa [freeTargets_battle] at hdraws
  · simp only [draws, Selector.yieldsToTaunt, Bool.or_eq_true, beq_iff_eq]

/-! ## In an ambush -/

/-- Any two of the battle, the dead among them. -/
def anyTwo : Selector := { pool := .anyone, mode := .random, count := 2, includeDead := true }

/-- The wolf growls at the hero, who has to cut it down instead of the slime. Then the taunt binds
no more, and the hero draws two of all three. -/
theorem draws_anyTwo_after_growl :
    ∃ b ids b', ambush.run? [growling, ⟨{}, .play finisher "hero" ["slime"]⟩] = some b ∧
      b.taunts.get? "hero" = some ⟨"wolf", 2⟩ ∧ "hero" ∈ b.roster .player ∧
      b.Unforced anyTwo "hero" ∧ b.resolveTargets anyTwo "hero" [] = (ids, b') ∧
      ids.length = 2 ∧ Draws ["hero", "slime", "wolf"] b.seed ids b'.seed ∧
      b'.seed = b.seed.advance 2 ∧ b'.taunts.get? "hero" = none := by
  have hcut : (ambush.run? [growling, ⟨{}, .play finisher "hero" ["slime"]⟩]).map (fun b =>
      (b.players, b.enemies, b.taunts.get? "hero", b.isAlive "wolf")) =
        some (["hero"], ["slime", "wolf"], some ⟨"wolf", 2⟩, false) := by
    decide +kernel
  obtain ⟨b, hb, heq⟩ := Option.map_eq_some_iff.1 hcut
  simp only [Prod.mk.injEq] at heq
  obtain ⟨hplayers, henemies, htaunt, hdown⟩ := heq
  have hmem : "hero" ∈ b.roster .player := by simp [roster, hplayers]
  have hfree : b.Unforced anyTwo "hero" := by
    intro _ t ht
    obtain rfl := Option.some.inj (htaunt.symm.trans ht)
    exact hdown
  have hfound : b.resolveTargets anyTwo "hero" [] = (_, _) := rfl
  obtain ⟨_, _, rfl, rfl, -, hnil, hb'⟩ :=
    finds_exactly (fresh_ambush.rostered.after_run hb) hmem hfree hfound
  obtain ⟨hlength, -, -, hdraws⟩ := hnil rfl
  refine ⟨b, _, _, hb, htaunt, hmem, hfree, rfl, ?_, ?_, ?_, ?_⟩
  · rw [hlength]
    simp [anyTwo, roster, Side.opponent, hplayers, henemies]
  · simpa [anyTwo, roster, Side.opponent, hplayers, henemies] using hdraws rfl
  · rw [hb']
    simp [anyTwo, roster, Side.opponent, hplayers, henemies]
  · rw [hb']
    simp [anyTwo, Table.get?_erase]

end Battle

end Skirmish
