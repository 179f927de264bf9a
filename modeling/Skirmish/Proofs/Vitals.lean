import Skirmish.Proofs.Answers

/-!
# Life and resources

An actor is `Sound` when each of its resources lies between zero and its maximum and when it is
alive exactly if it has hp. Whatever alters an actor keeps it sound (`Actor.Alters.sound`), so a
battle of sound actors stays one through every run, as long as those that are summoned are sound
(`allSound_of_run`).
-/

namespace Skirmish

/-! ## Resources -/

namespace Stats

/-- Every resource lies between zero and its maximum. -/
def Bounded (s : Stats) : Prop := ∀ r, 0 ≤ s.current r ∧ s.current r ≤ s.maximum r

theorem bounded_iff {s : Stats} :
    s.Bounded ↔ (0 ≤ s.hp ∧ s.hp ≤ s.maxHp) ∧ (0 ≤ s.sta ∧ s.sta ≤ s.maxSta) ∧
      (0 ≤ s.mp ∧ s.mp ≤ s.maxMp) := by
  refine ⟨fun h => ⟨h .hp, h .sta, h .mp⟩, fun ⟨hhp, hsta, hmp⟩ r => ?_⟩
  cases r with
  | hp => exact hhp
  | sta => exact hsta
  | mp => exact hmp

instance (s : Stats) : Decidable s.Bounded := decidable_of_iff _ bounded_iff.symm

theorem Bounded.maximum_nonneg {s : Stats} (h : s.Bounded) (r : Resource) : 0 ≤ s.maximum r :=
  Int.le_trans (h r).1 (h r).2

/-- Being bounded is a matter of the resources alone. -/
theorem Bounded.congr {s t : Stats} (h : s.Bounded) (hcur : ∀ r, t.current r = s.current r)
    (hmax : ∀ r, t.maximum r = s.maximum r) : t.Bounded := by
  intro r
  rw [hcur, hmax]
  exact h r

theorem Bounded.set {s : Stats} (h : s.Bounded) (r : Resource) (n : Int) : (s.set r n).Bounded := by
  intro q
  rw [maximum_set]
  by_cases hq : q = r
  · subst hq
    rw [current_set]
    exact ⟨between_nonneg _ _, between_le (h.maximum_nonneg q) n⟩
  · rw [current_set_of_ne hq]
    exact h q

theorem Bounded.add {s : Stats} (h : s.Bounded) (r : Resource) (n : Int) : (s.add r n).Bounded :=
  h.set r _

/-- Settling brings the resources within their maxima, wherever they were. -/
theorem bounded_settle {s : Stats} (h : ∀ r, 0 ≤ s.maximum r) : s.settle.Bounded := by
  intro q
  have hmax : s.settle.maximum q = s.maximum q := by simp only [settle, maximum_set]
  have hcur : s.settle.current q = between (s.maximum q) (s.current q) := by
    cases q <;> rfl
  rw [hmax, hcur]
  exact ⟨between_nonneg _ _, between_le (h q) _⟩

/-- A changed maximum does not fall below zero. -/
theorem maximum_withStat_nonneg {s : Stats} (h : ∀ r, 0 ≤ s.maximum r) (k : StatKind) {n : Int}
    (hn : 0 ≤ n) (r : Resource) : 0 ≤ (s.withStat k n).maximum r := by
  have hr := h r
  cases k <;> cases r <;> first | exact hr | exact hn

theorem Bounded.adjust {s : Stats} (h : s.Bounded) (k : StatKind) (n : Int) :
    (s.adjust k n).Bounded :=
  bounded_settle (maximum_withStat_nonneg h.maximum_nonneg k (by omega))

theorem hp_add_of_ne {r : Resource} (h : r ≠ .hp) (s : Stats) (n : Int) : (s.add r n).hp = s.hp :=
  current_set_of_ne h.symm s _

/-- A gain leaves hp to whom has some. -/
theorem hp_add_pos {s : Stats} (h : s.Bounded) (hp : 0 < s.hp) (r : Resource) {n : Int}
    (hn : 0 ≤ n) : 0 < (s.add r n).hp := by
  by_cases hr : r = .hp
  · subst hr
    have hmax : s.hp ≤ s.maxHp := (h .hp).2
    have hset : (s.add .hp n).hp = between s.maxHp (s.hp + n) := s.current_set .hp _
    rw [hset, between]
    omega
  · rwa [hp_add_of_ne hr]

end Stats

/-! ## Actors -/

namespace Actor

/-- Every resource lies between zero and its maximum, and the actor is alive exactly if it has
hp. -/
structure Sound (a : Actor) : Prop where
  bounded : a.stats.Bounded
  alive_iff : a.alive = true ↔ 0 < a.stats.hp

theorem sound_iff {a : Actor} : a.Sound ↔ a.stats.Bounded ∧ (a.alive = true ↔ 0 < a.stats.hp) :=
  ⟨fun h => ⟨h.bounded, h.alive_iff⟩, fun h => ⟨h.1, h.2⟩⟩

instance (a : Actor) : Decidable a.Sound := decidable_of_iff _ sound_iff.symm

theorem sound_faint {a : Actor} (h : a.stats.Bounded) : a.faint.Sound := by
  refine ⟨fun r => ?_, by simp [faint]⟩
  cases r with
  | hp => exact ⟨Int.le_refl 0, h.maximum_nonneg .hp⟩
  | sta => exact h .sta
  | mp => exact h .mp

/-- Whoever is alive and within its bounds is sound once it faints where it has no hp. -/
theorem sound_collapse {a : Actor} (hb : a.stats.Bounded) (ha : a.alive = true) :
    a.collapse.Sound := by
  unfold collapse
  split
  · exact sound_faint hb
  · next hup =>
    refine ⟨hb, iff_of_true ha ?_⟩
    simp only [ha, Bool.true_and, decide_eq_true_eq] at hup
    omega

/-- A sound actor does not faint. -/
theorem Sound.collapse_eq {a : Actor} (h : a.Sound) : a.collapse = a := by
  refine if_neg fun hdown => ?_
  simp only [Bool.and_eq_true, decide_eq_true_eq] at hdown
  have hp := h.alive_iff.1 hdown.1
  omega

theorem Undergoes.sound {a a' : Actor} (h : a.Undergoes a') (ha : a.Sound) : a'.Sound := by
  obtain ⟨hb, hiff⟩ := ha
  cases h with
  | afflictions is => exact ⟨hb, hiff⟩
  | healed halive r n hn =>
    have hp := Stats.hp_add_pos hb (hiff.1 halive) r hn
    exact ⟨hb.add r n, iff_of_true halive hp⟩
  | swayed halive r n => exact sound_collapse (hb.add r n) halive
  | adjusted halive k n => exact sound_collapse (hb.adjust k n) halive
  | collapsed =>
    rw [Sound.collapse_eq ⟨hb, hiff⟩]
    exact ⟨hb, hiff⟩

/-- **Whatever alters a sound actor keeps it sound.** -/
theorem Alters.sound {a a' : Actor} (h : a.Alters a') (ha : a.Sound) : a'.Sound := by
  obtain ⟨hb, hiff⟩ := ha
  cases h with
  | undergone h => exact h.sound ⟨hb, hiff⟩
  | revived halive n hn hmax =>
    have hset : (a.stats.set .hp n).hp = Stats.between a.stats.maxHp n := a.stats.current_set .hp n
    refine ⟨hb.set .hp n, iff_of_true rfl ?_⟩
    change 0 < (a.stats.set .hp n).hp
    rw [hset, Stats.between]
    omega
  | paid c =>
    have hp : ((a.stats.add .sta (-c.sta)).add .mp (-c.mp)).hp = a.stats.hp := by
      rw [Stats.hp_add_of_ne (by decide), Stats.hp_add_of_ne (by decide)]
    refine ⟨(hb.add .sta _).add .mp _, ?_⟩
    rw [hp]
    exact hiff
  | gainedXp n =>
    exact ⟨hb.congr (fun r => by cases r <;> rfl) (fun r => by cases r <;> rfl), hiff⟩
  | gainedGold n =>
    exact ⟨hb.congr (fun r => by cases r <;> rfl) (fun r => by cases r <;> rfl), hiff⟩

theorem Becomes.sound {a a' : Actor} (h : a.Becomes a') (ha : a.Sound) : a'.Sound := by
  induction h with
  | refl => exact ha
  | tail _ h ih => exact h.sound ih

end Actor

/-! ## Battles -/

/-- Whatever level they are given, the makers of enemies make sound actors. -/
def Codex.SpawnsSound (c : Codex) : Prop :=
  ∀ template level a, level ≤ greatestCount → c.spawn? template level = some a → a.Sound

namespace Battle

/-- Every actor of the battle is sound. -/
def AllSound (b : Battle) : Prop := ∀ id a, b.actor? id = some a → a.Sound

theorem allSound_iff {b : Battle} : b.AllSound ↔ ∀ e ∈ b.actors.entries, e.2.Sound :=
  ⟨fun h e he => h e.1 e.2 (Table.mem_entries_iff.1 he),
    fun h id a ha => h (id, a) (Table.mem_entries_iff.2 ha)⟩

instance (b : Battle) : Decidable b.AllSound := decidable_of_iff _ allSound_iff.symm

theorem SameCast.allSound {b b' : Battle} (h : b.SameCast b') (hb : b.AllSound) : b'.AllSound := by
  intro id a' ha'
  obtain ⟨a, ha, hbecomes⟩ := h.actor_eq_some ha'
  exact hbecomes.sound (hb id a ha)

theorem Shifts.allSound {codex : Codex} {b b' : Battle} (hspawn : codex.SpawnsSound)
    (h : b.Shifts codex b') (hb : b.AllSound) : b'.AllSound := by
  cases h with
  | kept h => exact h.allSound hb
  | joined side template level n a hlevel ha =>
    have hsound : a.Sound := hspawn _ _ _ hlevel ha
    intro q a' hq
    change (b.actors.insert _ _).get? q = some a' at hq
    rw [Table.get?_insert] at hq
    split at hq
    · -- the one who joined is what the maker made, under a new id
      cases hq
      exact ⟨hsound.bounded, hsound.alive_iff⟩
    · exact hb q a' hq
  | passed =>
    obtain ⟨round, current, log, heq, -⟩ := b.advance_spec b.order.length
    rw [heq]
    exact hb

/-- **In a battle of sound actors every run leaves every actor sound, also those that were
summoned.** -/
theorem allSound_of_run (b b' : Battle) (qs : List Request) (hb : b.AllSound)
    (hspawn : ∀ q ∈ qs, q.rules.codex.SpawnsSound) (h : b.run? qs = some b') : b'.AllSound :=
  run_induction (fun q hq _ _ hb hshift => hshift.allSound (hspawn q hq) hb) h hb

/-! ## In a brawl -/

theorem spawnsSound_impRules : impRules.codex.SpawnsSound := by
  intro template level a _ ha
  obtain ⟨make, hmake, rfl⟩ := Option.map_eq_some_iff.1 ha
  change (Table.empty.insert "imp" _).get? template = some make at hmake
  rw [Table.get?_insert] at hmake
  split at hmake
  · cases hmake
    exact ⟨Stats.bounded_iff.2 (by simp), by simp⟩
  · cases hmake

/-- The slime gets an imp to help it and is felled, is brought back and strikes the hero. -/
def brawl : List Request :=
  [⟨impRules, .resolve (.effect (.summon "imp") {} "slime" [])⟩,
   ⟨impRules, .play { Action.skill "cut" "Cut" with effects := [.trueDamage 9] } "hero" []⟩,
   ⟨impRules, .resolve (.effect (.revive (.flat 3)) {} "hero" ["slime"])⟩,
   ⟨impRules, .pass⟩,
   ⟨impRules, .play { Action.skill "bite" "Bite" with effects := [.damage 2] } "slime" ["hero"]⟩]

theorem sound_after_brawl :
    ∃ b', duel.run? brawl = some b' ∧ b'.actors.size = 3 ∧ b'.AllSound := by
  obtain ⟨b', hb', hsize⟩ : ∃ b', duel.run? brawl = some b' ∧ b'.actors.size = 3 := by
    have h : (duel.run? brawl).map (·.actors.size) = some 3 := by decide +kernel
    exact Option.map_eq_some_iff.1 h
  refine ⟨b', hb', hsize, allSound_of_run duel b' brawl (by decide) (fun q hq => ?_) hb'⟩
  have hrules : q.rules = impRules := by
    simp only [brawl, List.mem_cons, List.not_mem_nil, or_false] at hq
    rcases hq with rfl | rfl | rfl | rfl | rfl <;> rfl
  rw [hrules]
  exact spawnsSound_impRules

end Battle

end Skirmish
