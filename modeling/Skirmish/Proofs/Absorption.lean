import Skirmish.Proofs.Overflow

/-!
# How shields absorb

Damage drains the shields that are open to it one after the other: a later one loses something only
once the earlier ones have nothing left. `Shield.Drained` says this of shields and of the hp that
each of them keeps, and `Shield.drained_drain` that it is what draining does. What is left of the
actor's shields are those that keep something, in their order (`Battle.absorbs_in_order`).
-/

namespace Skirmish

namespace Shield

/-- A shield with the hp that it keeps. -/
def keeping (p : Shield × Int) : Shield := { p.1 with hp := p.2 }

/-- A shield is open to damage of its own element, or to all damage if it has none. -/
def OpenTo (element : Option String) (s : Shield) : Prop :=
  s.element = none ∨ s.element = element

instance (element : Option String) (s : Shield) : Decidable (s.OpenTo element) :=
  inferInstanceAs (Decidable (_ ∨ _))

/-- An amount is drained in order from those shields that are open to it; each shield comes with the
hp that it keeps. The others keep all they have, and of two open ones the later one loses something
only if the earlier one keeps nothing. -/
structure Drained (opens : Shield → Prop) (n : Int) (ps : List (Shield × Int)) : Prop where
  bounds : ∀ p ∈ ps, 0 ≤ p.2 ∧ p.2 ≤ p.1.hp
  closed : ∀ p ∈ ps, ¬opens p.1 → p.2 = p.1.hp
  inOrder : ps.Pairwise fun p q => opens p.1 → opens q.1 → q.2 < q.1.hp → p.2 = 0
  total : total (ps.map keeping) = total (ps.map Prod.fst) - n

theorem drain_zero (element : Option String) (ss : List Shield) :
    drain element 0 ss = (ss, 0) := by
  cases ss <;> rfl

/-- Shields that keep all they have stay as they are. -/
theorem map_keeping_own (ss : List Shield) : (ss.map fun s => (s, s.hp)).map keeping = ss := by
  rw [List.map_map]
  exact List.map_id ss

/-- Where shields stay as they are, each of them keeps all it has. -/
theorem eq_hp_of_map_keeping {ps : List (Shield × Int)}
    (h : ps.map keeping = ps.map Prod.fst) : ∀ p ∈ ps, p.2 = p.1.hp := by
  intro p hp
  exact congrArg Shield.hp (List.map_inj_left.1 h p hp)

/-- What draining leaves of shields, as the hp that each of them keeps. -/
theorem exists_drain_eq (element : Option String) {left : Int} (hleft : 0 ≤ left)
    (ss : List Shield) :
    ∃ ps : List (Shield × Int), ps.map Prod.fst = ss ∧
      (drain element left ss).1 = ps.map keeping ∧
      (∀ p ∈ ps, 0 ≤ p.1.hp → p.2 ≤ p.1.hp) ∧
      (∀ p ∈ ps, ¬p.1.absorbs element = true → p.2 = p.1.hp) ∧
      ps.Pairwise fun p q => p.1.absorbs element = true → q.1.absorbs element = true →
        q.2 < q.1.hp → p.2 = 0 := by
  induction ss generalizing left with
  | nil => exact ⟨[], rfl, rfl, List.forall_mem_nil _, List.forall_mem_nil _, .nil⟩
  | cons s ss ih =>
    by_cases hzero : left = 0
    · -- nothing is left to absorb, so all of them keep what they have
      subst hzero
      have hown : ∀ p ∈ (s :: ss).map fun s => (s, s.hp), p.2 = p.1.hp := by
        simp only [List.forall_mem_map, implies_true]
      refine ⟨(s :: ss).map fun s => (s, s.hp), ?_, ?_, ?_, ?_, ?_⟩
      · rw [List.map_map]
        exact List.map_id _
      · rw [drain_zero, map_keeping_own]
      · exact fun p hp _ => Int.le_of_eq (hown p hp)
      · exact fun p hp _ => hown p hp
      · refine List.pairwise_of_forall_mem_list fun p _ q hq _ _ hless => ?_
        have := hown q hq
        omega
    · cases habsorbs : s.absorbs element with
      | true =>
        have hrest : 0 ≤ left - min s.hp left := by omega
        obtain ⟨ps, hfst, hkeeping, hmost, hclosed, horder⟩ := ih hrest
        refine ⟨(s, s.hp - min s.hp left) :: ps, by rw [List.map_cons, hfst], ?_, ?_, ?_, ?_⟩
        · simp only [drain, if_neg hzero, habsorbs, if_true, hkeeping]
          rfl
        · refine List.forall_mem_cons.2 ⟨fun hs => ?_, hmost⟩
          dsimp only at hs ⊢
          omega
        · exact List.forall_mem_cons.2 ⟨fun hshut => absurd habsorbs hshut, hclosed⟩
        · refine List.pairwise_cons.2 ⟨fun q hq _ _ hless => ?_, horder⟩
          by_contra hkeeps
          -- the shield keeps something, so nothing is left for the ones after it
          have hdone : left - min s.hp left = 0 := by
            dsimp only at hkeeps
            omega
          rw [hdone, drain_zero] at hkeeping
          have := eq_hp_of_map_keeping (hkeeping.symm.trans hfst.symm) q hq
          omega
      | false =>
        obtain ⟨ps, hfst, hkeeping, hmost, hclosed, horder⟩ := ih hleft
        refine ⟨(s, s.hp) :: ps, by rw [List.map_cons, hfst], ?_, ?_, ?_, ?_⟩
        · simp only [drain, if_neg hzero, habsorbs, Bool.false_eq_true, if_false, hkeeping]
          rfl
        · exact List.forall_mem_cons.2 ⟨fun _ => Int.le_refl _, hmost⟩
        · exact List.forall_mem_cons.2 ⟨fun _ => rfl, hclosed⟩
        · refine List.pairwise_cons.2 ⟨fun q hq hopen => ?_, horder⟩
          rw [habsorbs] at hopen
          cases hopen

theorem absorbs_iff_openTo (element : Option String) (s : Shield) :
    s.absorbs element = true ↔ s.OpenTo element :=
  absorbs_iff

theorem capacity_eq_total (element : Option String) (ss : List Shield) :
    capacity element ss = total (ss.filter fun s => s.OpenTo element) := by
  refine congrArg total (List.filter_congr fun s _ => ?_)
  rw [Bool.eq_iff_iff, absorbs_iff_openTo, decide_eq_true_iff]

/-- Draining takes an amount in order from the shields that are open to it, as far as they have
it. -/
theorem drained_drain (element : Option String) {left : Int} (hleft : 0 ≤ left) {ss : List Shield}
    (h : ∀ s ∈ ss, 0 ≤ s.hp) :
    ∃ ps : List (Shield × Int), ps.map Prod.fst = ss ∧
      (drain element left ss).1 = ps.map keeping ∧
      Drained (OpenTo element) (min left (capacity element ss)) ps := by
  obtain ⟨ps, hfst, hkeeping, hmost, hclosed, horder⟩ := exists_drain_eq element hleft ss
  simp only [absorbs_iff_openTo] at hclosed horder
  obtain ⟨-, htotal, hkept⟩ := drain_spec element hleft h
  rw [hkeeping] at htotal hkept
  refine ⟨ps, hfst, hkeeping, fun p hp => ⟨?_, ?_⟩, hclosed, horder, ?_⟩
  · exact hkept (keeping p) (List.mem_map_of_mem hp)
  · exact hmost p hp (h p.1 (hfst ▸ List.mem_map_of_mem hp))
  · rw [htotal, hfst]

/-- The shields that are not used up, where none is below zero. -/
theorem filter_map_keeping {ps : List (Shield × Int)} (h : ∀ p ∈ ps, 0 ≤ p.2) :
    ((ps.map keeping).filter fun s => 0 < s.hp) =
      (ps.filter fun p => p.2 ≠ 0).map keeping := by
  rw [List.filter_map]
  refine congrArg (List.map keeping) (List.filter_congr fun p hp => ?_)
  have := h p hp
  refine decide_eq_decide.2 ?_
  dsimp only [keeping]
  omega

end Shield

namespace Battle

variable {b : Battle} {id : ActorId}

/-- **Shields absorb in order.** Let none of an actor's shields be below zero. Whatever the element
of damage and whatever its amount, the shields absorb it as far as it is positive and as far as
those that are open to it have hp. That much is drained from these in their order, and what the
actor has afterwards are all shields that keep something, as they stood; an actor that has none left
has no entry. Nothing else changes. Where the numbers are whole, so is all that comes between. -/
theorem absorbs_in_order (h : ∀ s ∈ b.shieldsOf id, 0 ≤ s.hp) (element : Option String)
    (amount : Int) :
    ∃ absorbed b' ps kept, b.absorb id element amount = (absorbed, b') ∧
      absorbed = min (max amount 0)
        (Shield.total ((b.shieldsOf id).filter fun s => Shield.OpenTo element s)) ∧
      ps.map Prod.fst = b.shieldsOf id ∧ Shield.Drained (Shield.OpenTo element) absorbed ps ∧
      kept = (ps.filter fun p => p.2 ≠ 0).map Shield.keeping ∧
      b'.shields.get? id = (if kept = [] then none else some kept) ∧
      (∀ q ≠ id, b'.shields.get? q = b.shields.get? q) ∧
      b' = { b with shields := b'.shields } ∧
      ((∀ s ∈ b.shieldsOf id, IsWhole s.hp) → IsWhole amount →
        b.absorb? id element amount = some (absorbed, b')) := by
  obtain ⟨ps, hfst, hkeeping, hdrained⟩ :=
    Shield.drained_drain element (Int.le_max_left 0 amount) h
  obtain ⟨habsorb, -⟩ := absorb_spec h element amount
  have hafter : b.shieldsAfter id element amount =
      (ps.filter fun p => p.2 ≠ 0).map Shield.keeping := by
    rw [shieldsAfter, hkeeping]
    exact Shield.filter_map_keeping fun p hp => (hdrained.bounds p hp).1
  refine ⟨_, _, ps, _, habsorb, ?_, hfst, hdrained, hafter, ?_, ?_, rfl, ?_⟩
  · rw [Shield.capacity_eq_total, Int.max_comm]
  · exact b.get?_shields_withShields id _
  · exact fun q hq => shields_withShields_of_ne hq _
  · intro hwhole hamount
    rw [absorb?_eq (fun s hs => ⟨h s hs, (hwhole s hs).2⟩) element hamount, habsorb]

/-- The duel, in which the hero stands behind a shield of ice, a ward, a shield of fire and a second
ward. -/
def shieldedDuel : Battle :=
  duel.withShields "hero"
    [⟨"frost", 4, some "ice"⟩, ⟨"ward", 3, none⟩, ⟨"ember", 2, some "fire"⟩, ⟨"aegis", 5, none⟩]

/-- Six damage of fire passes the frost, uses up the ward and the ember, and then takes one from the
aegis. -/
theorem aegis_drained_last :
    (∀ s ∈ shieldedDuel.shieldsOf "hero", 0 ≤ s.hp) ∧
      ∃ b' ps, shieldedDuel.absorb "hero" (some "fire") 6 = (6, b') ∧
        shieldedDuel.absorb? "hero" (some "fire") 6 = some (6, b') ∧
        ps.map Prod.fst = shieldedDuel.shieldsOf "hero" ∧
        Shield.Drained (Shield.OpenTo (some "fire")) 6 ps ∧
        b'.shields.get? "hero" = some [⟨"frost", 4, some "ice"⟩, ⟨"aegis", 4, none⟩] := by
  have hnonneg : ∀ s ∈ shieldedDuel.shieldsOf "hero", 0 ≤ s.hp := by decide +kernel
  obtain ⟨absorbed, b', ps, kept, habsorb, hsix, hfst, hdrained, -, -, -, -, hchecked⟩ :=
    absorbs_in_order hnonneg (some "fire") 6
  replace hsix : absorbed = 6 := hsix.trans (by decide +kernel)
  subst hsix
  refine ⟨hnonneg, b', ps, habsorb, hchecked (by decide +kernel) (by decide +kernel), hfst,
    hdrained, ?_⟩
  have hafter : b' = (shieldedDuel.absorb "hero" (some "fire") 6).2 :=
    (congrArg Prod.snd habsorb).symm
  rw [hafter]
  decide +kernel

end Battle

end Skirmish
