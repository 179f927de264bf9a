import Skirmish.Proofs.Nesting
import Skirmish.Proofs.Ranges
import Skirmish.Proofs.Rewards
import Skirmish.Proofs.Wounds
import Skirmish.Resolution.Checked

/-!
# Overflow

Where nothing is beyond the range of whole numbers, checked arithmetic computes what arithmetic
with integers does. In a battle in range that is so for whatever absorbs damage, changes a resource
or strikes: a loss is the negation of an amount, and a difference of amounts is whole. Two
operations go further. The size of a change of a stat is an absolute value, which the least whole
number does not have, and the spoils of a victory are summed without saturation. `Battle.Fits` says
that there is nothing else, and `Battle.fits_along_runs` that this is so whatever is called. So an
effect on one target after the other has no result only where a stat would fall that far
(`applyInTurn?_cases`), and a judgement only where it is a victory of such spoils
(`settled?_judge`).
-/

namespace Skirmish

theorem whole?_of_isWhole {n : Int} (h : IsWhole n) : whole? n = some n := if_pos h

theorem whole?_of_not_isWhole {n : Int} (h : ¬IsWhole n) : whole? n = none := if_neg h

namespace IsAmount

variable {m n : Int}

theorem isWhole (h : IsAmount n) : IsWhole n := by
  unfold IsAmount at h
  unfold IsWhole leastWhole
  omega

theorem isWhole_neg (h : IsAmount n) : IsWhole (-n) := by
  unfold IsAmount greatestWhole at h
  unfold IsWhole leastWhole greatestWhole
  omega

/-- The difference of two of them may be negative, but it is whole. -/
theorem isWhole_sub (hm : IsAmount m) (hn : IsAmount n) : IsWhole (m - n) := by
  unfold IsAmount greatestWhole at hm hn
  unfold IsWhole leastWhole greatestWhole
  omega

end IsAmount

theorem isAmount_damageAmount (raw : Float) : IsAmount (Battle.damageAmount raw) := by
  unfold Battle.damageAmount
  split
  · exact isAmount_nearestAbove raw
  · exact isAmount_zero

/-- Only the least whole number has an absolute value that is not whole. -/
theorem isWhole_natAbs_iff {n : Int} (h : IsWhole n) : IsWhole n.natAbs ↔ n ≠ leastWhole := by
  unfold IsWhole leastWhole greatestWhole at *
  omega

/-! ## Resources -/

namespace Stats

/-- Below its maximum a resource does not notice where a sum stops. -/
theorem between_saturate {m : Int} (h : m ≤ greatestWhole) (n : Int) :
    between m (saturate n) = between m n := by
  unfold greatestWhole at h
  unfold between saturate leastWhole greatestWhole
  omega

theorem InRange.isWhole_change {s : Stats} (h : s.InRange) (r : Resource) (delta : Int) :
    IsWhole (s.change r delta) :=
  ((h.add r delta).current r).isWhole_sub (h.current r)

theorem InRange.isWhole_neg_change {s : Stats} (h : s.InRange) (r : Resource) (delta : Int) :
    IsWhole (-s.change r delta) := by
  rw [Stats.change, Int.neg_sub]
  exact (h.current r).isWhole_sub ((h.add r delta).current r)

theorem InRange.add?_eq {s : Stats} (h : s.InRange) (r : Resource) (delta : Int) :
    s.add? r delta = some (s.add r delta, s.change r delta) := by
  have hadded : s.set r (saturate (s.current r + delta)) = s.add r delta := by
    rw [Stats.add, Stats.set, Stats.set, between_saturate (h.maximum r).2]
  unfold add?
  simp only [hadded]
  change (whole? (s.change r delta)).bind _ = _
  rw [whole?_of_isWhole (h.isWhole_change r delta)]
  rfl

end Stats

namespace Battle

variable {b : Battle}

theorem addResource?_eq (h : b.ActorsInRange) (id : ActorId) (r : Resource) (delta : Int) :
    b.addResource? id r delta = some (b.changeOf id r delta, b.addResource id r delta) := by
  unfold addResource? changeOf addResource modifyActor
  cases ha : b.actor? id with
  | none => rw [Table.modify_of_get?_none ha]; rfl
  | some a =>
    simp only [(h id a ha).add?_eq, Table.modify_of_get? ha, Option.bind_eq_bind,
      Option.bind_some, Option.pure_def, Option.elim_some]

theorem isWhole_neg_changeOf (h : b.ActorsInRange) (id : ActorId) (r : Resource) (delta : Int) :
    IsWhole (-b.changeOf id r delta) := by
  unfold changeOf
  cases ha : b.actor? id with
  | none =>
    rw [Option.elim_none]
    decide
  | some a => exact (h id a ha).isWhole_neg_change r delta

end Battle

/-! ## Shields -/

theorem Shield.InRange.drain?_eq {ss : List Shield} (h : Shield.InRange ss)
    (element : Option String) {left : Int} (hleft : IsAmount left) :
    Shield.drain? element left ss = some (Shield.drain element left ss) := by
  induction ss generalizing left with
  | nil => rfl
  | cons s ss ih =>
    obtain ⟨hs, hss⟩ := List.forall_mem_cons.1 h
    rw [Shield.drain?, Shield.drain]
    split
    · rfl
    · split
      · have hhp : IsAmount (s.hp - min s.hp left) := hs.sub_min hleft.1
        have hrest : IsAmount (left - min s.hp left) := by
          rw [Int.min_comm]
          exact hleft.sub_min hs.1
        simp only [whole?_of_isWhole hhp.isWhole, whole?_of_isWhole hrest.isWhole, ih hss hrest,
          Option.bind_eq_bind, Option.bind_some, Option.pure_def]
      · simp only [ih hss hleft, Option.bind_eq_bind, Option.bind_some, Option.pure_def]

namespace Battle

variable {b : Battle}

/-- Shields absorb no more of a number than there is of it. -/
theorem absorb?_eq {id : ActorId} (hshields : Shield.InRange (b.shieldsOf id))
    (element : Option String) {amount : Int} (hamount : IsWhole amount) :
    b.absorb? id element amount = some (b.absorb id element amount) := by
  have hnonneg : ∀ s ∈ b.shieldsOf id, 0 ≤ s.hp := fun s hs => (hshields s hs).1
  have hmost : IsAmount (max 0 amount) := by
    unfold IsWhole greatestWhole at hamount
    unfold IsAmount greatestWhole
    omega
  have hcap := Shield.capacity_nonneg element hnonneg
  have habsorbed : IsAmount (max 0 amount - (Shield.drain element (max 0 amount)
      (b.shieldsOf id)).2) := by
    rw [(Shield.drain_spec element hmost.1 hnonneg).1]
    unfold IsAmount at *
    omega
  unfold absorb? absorb
  simp only [hshields.drain?_eq element hmost, whole?_of_isWhole habsorbed.isWhole,
    Option.bind_eq_bind, Option.bind_some, Option.pure_def]

/-! ## Strikes -/

/-- What the shields leave of an amount of damage is an amount, and so is its negation whole. -/
theorem wound?_eq (h : b.InRange) (id : ActorId) (element : Option String) (critical : Bool)
    {amount : Int} (hamount : IsAmount amount) :
    b.wound? id element critical amount = some (b.wound id element critical amount) := by
  have hshields : ∀ s ∈ b.shieldsOf id, 0 ≤ s.hp := fun s hs => (h.shields.shieldsOf id s hs).1
  obtain ⟨habsorb, -⟩ := absorb_spec hshields element amount
  have hchecked := absorb?_eq (h.shields.shieldsOf id) element hamount.isWhole
  have hcap := Shield.capacity_nonneg element hshields
  rw [habsorb] at hchecked
  generalize hmin : min (max 0 amount) (Shield.capacity element (b.shieldsOf id)) = absorbed at *
  have hdealt : IsAmount (amount - absorbed) := by
    unfold IsAmount at *
    omega
  unfold wound? wound
  simp only [hchecked, habsorb, whole?_of_isWhole hdealt.isWhole, Option.bind_eq_bind,
    Option.bind_some, Option.pure_def]
  -- a line of the log may tell of the shields; the actors are the same either way
  generalize hshielded : (if 0 < absorbed then _ else _ : Battle) = shielded
  have hactors : shielded.ActorsInRange := by
    refine h.actors.congr ?_
    rw [← hshielded]
    split <;> rfl
  split
  · simp only [whole?_of_isWhole hdealt.isWhole_neg, addResource?_eq hactors, Option.bind_some]
  · rfl

/-- What combat compares of an actor is in range if the actor is. -/
theorem isAmount_stat_effective (codex : Codex) {a : Actor} (h : a.stats.InRange) (k : StatKind)
    (hk : Codex.isCompared k = true) : IsAmount ((codex.effective a).stats.stat k) := by
  unfold Codex.effective
  split
  · cases k <;> first | exact isAmount_nearestAbove _ | cases hk
  · exact h.stat k

/-- The differences that the chances of a strike are made of are whole. -/
theorem compare?_eq {codex : Codex} {u t : Actor} (hu : u.stats.InRange) (ht : t.stats.InRange) :
    compare? (codex.effective u) (codex.effective t) = some () := by
  have hattack : IsWhole ((codex.effective u).stats.attack - (codex.effective t).stats.defence) :=
    (isAmount_stat_effective codex hu .attack rfl).isWhole_sub
      (isAmount_stat_effective codex ht .defence rfl)
  have hlevel : IsWhole ((codex.effective u).stats.level - (codex.effective t).stats.level) :=
    (isAmount_stat_effective codex hu .level rfl).isWhole_sub
      (isAmount_stat_effective codex ht .level rfl)
  unfold compare?
  rw [whole?_of_isWhole hattack, whole?_of_isWhole hlevel]
  rfl

/-- A strike computes nothing beyond the range. -/
theorem strike?_eq (h : b.InRange) (rules : Rules) (e : Effect) (o : Origin) (user id : ActorId)
    (rolls : Rolls) :
    b.strike? rules e o user id rolls = some (b.strike rules e o user id rolls) := by
  unfold strike? strike
  cases hu : b.actor? user with
  | none => rfl
  | some u =>
    cases ht : b.actor? id with
    | none => rfl
    | some t =>
      simp only [compare?_eq (h.actors user u hu) (h.actors id t ht), Option.bind_eq_bind,
        Option.bind_some, Option.pure_def]
      -- however the rolls come out, a hit deals an amount
      generalize (if e.canMiss = true then _ else _ : Bool × Rolls × Seed) = first
      obtain ⟨hit, rolls', seed'⟩ := first
      cases hit with
      | false => rfl
      | true =>
        generalize (if e.canCrit = true then _ else _ : Bool × Rolls × Seed) = second
        have hseeded : ({ b with seed := second.2.2 } : Battle).InRange := h.congr rfl rfl
        simp only [if_true, wound?_eq hseeded _ _ _ (isAmount_damageAmount _), Option.bind_some]

/-! ## Immediate effects -/

/-- What is not negative is written as its absolute value is. -/
theorem toString_natAbs {n : Int} (h : 0 ≤ n) : toString n.natAbs = toString n := by
  obtain ⟨m, rfl⟩ := Int.eq_ofNat_of_zero_le h
  rfl

theorem heal?_eq (h : b.InRange) (id : ActorId) (r : Resource) (amount : Int) :
    b.heal? id r amount = some (b.heal id r amount) := by
  unfold heal?
  rw [addResource?_eq h.actors]
  rfl

/-- A loss is written as a negation on one side and as an absolute value on the other. -/
theorem changeResource?_eq (h : b.InRange) (id : ActorId) (r : Resource) (delta : Int) :
    b.changeResource? id r delta = some (b.changeResource id r delta) := by
  unfold changeResource? changeResource
  simp only [addResource?_eq h.actors, Option.bind_eq_bind, Option.bind_some, Option.pure_def]
  have hloss := isWhole_neg_changeOf h.actors id r delta
  generalize b.changeOf id r delta = n at *
  by_cases hn : 0 ≤ n
  · simp only [if_pos hn, toString_natAbs hn]
  · have hsize : toString n.natAbs = toString (-n) := by
      rw [← Int.natAbs_neg, toString_natAbs (by omega)]
    simp only [if_neg hn, whole?_of_isWhole hloss, Option.bind_some, hsize]

/-- Of all changes of a stat only one by the least whole number is beyond the range. -/
theorem modifyStat?_eq (b : Battle) (id : ActorId) (k : StatKind) {delta : Int}
    (hdelta : IsWhole delta) :
    b.modifyStat? id k delta =
      if delta = leastWhole then none else some (b.modifyStat id k delta) := by
  unfold modifyStat? modifyStat
  by_cases hleast : delta = leastWhole
  · rw [if_pos hleast, whole?_of_not_isWhole (mt (isWhole_natAbs_iff hdelta).1 (· hleast))]
    rfl
  · rw [if_neg hleast, whole?_of_isWhole ((isWhole_natAbs_iff hdelta).2 hleast)]
    rfl

/-- Whether an effect changes a stat of a target by the least whole number, as all magnitudes that
are not above it do. -/
def FallsByLeast (b : Battle) (rules : Rules) (e : Effect) (o : Origin) (user id : ActorId) :
    Prop :=
  e.kind = .modifyStat ∧ e.stat.isSome = true ∧
    nearest (b.magnitude rules e o user id) = leastWhole

instance (b : Battle) (rules : Rules) (e : Effect) (o : Origin) (user id : ActorId) :
    Decidable (b.FallsByLeast rules e o user id) :=
  inferInstanceAs (Decidable (_ ∧ _))

/-- Of all immediate effects only a change of a stat by the least whole number is beyond the
range. -/
theorem applyImmediate?_eq (h : b.InRange) (rules : Rules) (e : Effect) (o : Origin)
    (user id : ActorId) :
    b.applyImmediate? rules e o user id =
      if b.FallsByLeast rules e o user id then none
      else some (b.applyImmediate rules e o user id) := by
  have hwhole := isWhole_nearest (b.magnitude rules e o user id)
  have hother : e.kind ≠ .modifyStat → ¬b.FallsByLeast rules e o user id := fun hk h => hk h.1
  unfold applyImmediate?
  split
  case h_1 hk =>
    rw [heal?_eq h, if_neg (hother (by rw [hk]; decide))]
    simp only [applyImmediate, hk]
  case h_2 hk =>
    rw [changeResource?_eq h, if_neg (hother (by rw [hk]; decide))]
    simp only [applyImmediate, hk]
  case h_3 hk =>
    cases hstat : e.stat with
    | none =>
      have hnot : ¬b.FallsByLeast rules e o user id := fun h => by simpa [hstat] using h.2.1
      rw [if_neg hnot]
      simp only [applyImmediate, hk, hstat, Option.elim_none]
    | some k =>
      have hiff : b.FallsByLeast rules e o user id ↔
          nearest (b.magnitude rules e o user id) = leastWhole :=
        ⟨fun h => h.2.2, fun h => ⟨hk, by rw [hstat]; rfl, h⟩⟩
      simp only [applyImmediate, hk, hstat, Option.elim_some, modifyStat?_eq b id k hwhole, hiff]
  case h_4 _ _ hk => rw [if_neg (hother hk)]

/-- An effect goes through all its targets, unless it comes to one whose stat would fall by the
least whole number. -/
theorem applyInTurn?_cases (h : b.InRange) {rules : Rules} (hspawn : rules.codex.SpawnsInRange)
    (e : Effect) (o : Origin) (user : ActorId) (targets : List ActorId) :
    b.applyInTurn? rules e o user targets = some (b.applyInTurn rules e o user targets) ∨
      b.applyInTurn? rules e o user targets = none ∧
        ∃ before id after, targets = before ++ id :: after ∧
          (b.applyInTurn rules e o user before).FallsByLeast rules e o user id := by
  induction targets generalizing b with
  | nil => exact .inl rfl
  | cons id ids ih =>
    -- whatever the first target comes to, the places of the others are one further on
    have hlater : ∀ c : Battle, c.InRange → (∀ ids', b.applyInTurn rules e o user (id :: ids') =
        c.applyInTurn rules e o user ids') →
        c.applyInTurn? rules e o user ids = some (b.applyInTurn rules e o user (id :: ids)) ∨
          c.applyInTurn? rules e o user ids = none ∧
            ∃ before q after, id :: ids = before ++ q :: after ∧
              (b.applyInTurn rules e o user before).FallsByLeast rules e o user q := by
      intro c hc hcons
      obtain hsome | ⟨hnone, before, q, after, rfl, hq⟩ := ih hc
      · exact .inl (by rw [hsome, hcons])
      · exact .inr ⟨hnone, id :: before, q, after, rfl, by rwa [hcons]⟩
    rw [applyInTurn?]
    by_cases hreached : b.isReached e id = true
    · have hmay : (Deed.change e o user id).May rules (fun _ => True) b := ⟨trivial, hreached⟩
      rw [if_pos hreached, applyImmediate?_eq h]
      by_cases hfalls : b.FallsByLeast rules e o user id
      · rw [if_pos hfalls]
        exact .inr ⟨rfl, [], id, ids, rfl, hfalls⟩
      · rw [if_neg hfalls, Option.bind_some]
        exact hlater _ (h.deed hspawn hmay) fun ids' => by rw [applyInTurn_cons, if_pos hreached]
    · rw [if_neg hreached]
      exact hlater b h fun ids' => by rw [applyInTurn_cons, if_neg hreached]

/-! ## Rewards -/

/-- Numbers that are not negative are summed exactly if the whole sum is whole. -/
theorem total?_eq {ns : List Int} (h : ∀ n ∈ ns, 0 ≤ n) {total : Int} (htotal : IsAmount total) :
    total? total ns = whole? (total + ns.foldr (· + ·) 0) := by
  induction ns generalizing total with
  | nil =>
    rw [List.foldr_nil, Int.add_zero, whole?_of_isWhole htotal.isWhole]
    rfl
  | cons n ns ih =>
    obtain ⟨hn, hns⟩ := List.forall_mem_cons.1 h
    have hrest := foldr_add_nonneg hns
    rw [total?, List.foldr_cons, ← Int.add_assoc]
    by_cases hnext : IsWhole (total + n)
    · have hmore : IsAmount (total + n) := ⟨Int.add_nonneg htotal.1 hn, hnext.2⟩
      rw [whole?_of_isWhole hnext, Option.bind_some, ih hns hmore]
    · -- the rest is not negative, so what is too much stays too much
      have hover : ¬IsWhole (total + n + ns.foldr (· + ·) 0) := by
        unfold IsAmount at htotal
        unfold IsWhole leastWhole at *
        omega
      rw [whole?_of_not_isWhole hnext, whole?_of_not_isWhole hover]
      rfl

/-- The spoils are summed from nothing, so all that matters is whether their sum is whole. -/
theorem spoils?_eq (h : b.InRange) {f : Stats → Int} (hf : ∀ s : Stats, s.InRange → 0 ≤ f s) :
    b.spoils? f = whole? (b.spoils f) := by
  rw [spoils?, total?_eq (h.forall_enemies hf) isAmount_zero, Int.zero_add]
  rfl

/-- Whether the spoils of a victory are whole numbers. -/
def SpoilsFit (b : Battle) : Prop := IsWhole (b.spoils (·.xp)) ∧ IsWhole (b.spoils (·.gold))

instance (b : Battle) : Decidable b.SpoilsFit := inferInstanceAs (Decidable (_ ∧ _))

/-- Two numbers are whole, and what is made of them is there, or nothing is. -/
theorem bind_whole? {α : Type} (m n : Int) (f : Int → Int → α) :
    ((whole? m).bind fun m => (whole? n).bind fun n => some (f m n)) =
      if IsWhole m ∧ IsWhole n then some (f m n) else none := by
  by_cases hm : IsWhole m
  · by_cases hn : IsWhole n
    · rw [whole?_of_isWhole hm, whole?_of_isWhole hn, if_pos ⟨hm, hn⟩]
      rfl
    · rw [whole?_of_isWhole hm, whole?_of_not_isWhole hn, if_neg fun h => hn h.2]
      rfl
  · rw [whole?_of_not_isWhole hm, if_neg fun h => hm h.1]
    rfl

theorem grantRewards?_eq (h : b.InRange) :
    b.grantRewards? = if b.SpoilsFit then some b.grantRewards else none := by
  unfold grantRewards?
  rw [spoils?_eq h fun _ hs => hs.xp.1, spoils?_eq h fun _ hs => hs.gold.1]
  exact bind_whole? _ _ fun xp gold => (b.rewardAll xp gold (b.living .player)).announce
    s!"Victory! Gained {xp} XP and {gold} gold."

/-- Judged a victory, a battle is settled if its spoils are whole. -/
theorem settled?_judge (h : b.InRange) (hplayers : b.players.Nodup) (hwins : b.Wins b.judge.2) :
    b.settled? b.judge.2 = if b.SpoilsFit then some b.judge.2 else none := by
  have hjudged : b.judge.2.InRange := h.judge
  obtain ⟨hxp, hgold⟩ : b.judge.2.spoils (·.xp) = b.spoils (·.xp) ∧
      b.judge.2.spoils (·.gold) = b.spoils (·.gold) := by
    obtain ⟨hdown, heq⟩ := judge_of_wins hwins
    rw [heq]
    exact spoils_grantRewards (b := b.finish .victory) hplayers hdown
  unfold settled?
  rw [if_pos ⟨hwins.1, hwins.2⟩, spoils?_eq hjudged fun _ hs => hs.xp.1,
    spoils?_eq hjudged fun _ hs => hs.gold.1, hxp, hgold]
  exact bind_whole? _ _ fun _ _ => b.judge.2

/-! ## What overflows -/

/-- Checked arithmetic makes the same of a battle as arithmetic with integers does, whatever is done
to it, unless a stat falls by the least whole number or the spoils of a victory are not whole. -/
structure Fits (rules : Rules) (b : Battle) : Prop where
  absorb : ∀ id element amount, IsWhole amount →
    b.absorb? id element amount = some (b.absorb id element amount)
  addResource : ∀ id r delta,
    b.addResource? id r delta = some (b.changeOf id r delta, b.addResource id r delta)
  strike : ∀ e o user id rolls,
    b.strike? rules e o user id rolls = some (b.strike rules e o user id rolls)
  applyImmediate : ∀ e o user id, b.applyImmediate? rules e o user id =
    if b.FallsByLeast rules e o user id then none else some (b.applyImmediate rules e o user id)
  grantRewards : b.grantRewards? = if b.SpoilsFit then some b.grantRewards else none

theorem InRange.fits (h : b.InRange) (rules : Rules) : b.Fits rules where
  absorb id element _ hamount := absorb?_eq (h.shields.shieldsOf id) element hamount
  addResource := addResource?_eq h.actors
  strike := strike?_eq h rules
  applyImmediate := applyImmediate?_eq h rules
  grantRewards := grantRewards?_eq h

/-- **Numbers stay whole along every run, apart from two operations.** Let a battle be in range, and
let the actors that are summoned be made in range. After any run of calls, before each deed of a
further one and after it, checked arithmetic makes the same of the battle as arithmetic with
integers does: whatever absorbs damage, changes a resource, strikes or has an immediate effect has
the same outcome, unless a stat is to fall by the least whole number, and so has a victory, unless
the xp or the gold of the enemies sums up to more than a whole number. -/
theorem fits_along_runs {b' : Battle} {qs : List Request} (hb : b.InRange)
    (hspawn : ∀ q ∈ qs, q.rules.codex.SpawnsInRange) (h : b.run? qs = some b') (rules : Rules) :
    b'.Fits rules ∧ ∀ content c tr b'', rules.codex.SpawnsInRange →
      b'.Unfolds rules content c tr b'' → (∀ p ∈ tr, p.1.Fits rules) ∧ b''.Fits rules := by
  have hrange : b'.InRange := inRange_of_run hspawn h hb
  refine ⟨hrange.fits rules, fun content c tr b'' hspawn' hunfolds => ?_⟩
  obtain ⟨htr, hafter⟩ := hunfolds.inRange hspawn' hrange
  exact ⟨fun p hp => (htr p hp).fits rules, hafter.fits rules⟩

theorem spawnsInRange_impRules : impRules.codex.SpawnsInRange := by
  intro template level a hlevel ha
  obtain ⟨make, hmake, rfl⟩ := Option.map_eq_some_iff.1 ha
  change (Table.empty.insert "imp" _).get? template = some make at hmake
  rw [Table.get?_insert] at hmake
  split at hmake
  · cases hmake
    have hamount : IsAmount level := by
      unfold greatestCount at hlevel
      unfold IsAmount greatestWhole
      omega
    refine ⟨Stats.bounded_iff.2 (by simp), fun k => ?_, isAmount_zero, isAmount_zero⟩
    cases k with
    | level => exact hamount
    | maxHp => exact (by decide : IsAmount 5)
    | _ => exact isAmount_zero
  · cases hmake

/-- The slime that was brought back in the brawl is stung. -/
def sting : Request := ⟨impRules, .resolve (.effect (.trueDamage 2) {} "imp#1" ["slime"])⟩

/-- Whatever the brawl and the sting after it compute is whole. -/
theorem fits_after_brawl :
    ∃ b' tr b'', duel.run? brawl = some b' ∧ b'.after? sting = some b'' ∧
      b'.Unfolds impRules (fun _ => True) sting.call tr b'' ∧
      b'.Fits impRules ∧ (∀ p ∈ tr, p.1.Fits impRules) ∧ b''.Fits impRules := by
  have hreturns : ((duel.run? brawl).bind (·.after? sting)).isSome = true := by decide +kernel
  obtain ⟨b'', hboth⟩ := Option.isSome_iff_exists.1 hreturns
  obtain ⟨b', hb', hb''⟩ := Option.bind_eq_some_iff.1 hboth
  obtain ⟨tr, hunfolds⟩ := unfolds_of_after? sting.within_true hb''
  have hspawn : ∀ q ∈ brawl, q.rules.codex.SpawnsInRange := by
    have hrules : ∀ q ∈ brawl, q.rules = impRules := by
      simp only [brawl, List.forall_mem_cons, List.not_mem_nil, IsEmpty.forall_iff, implies_true,
        and_self]
    intro q hq
    rw [hrules q hq]
    exact spawnsInRange_impRules
  obtain ⟨hfits, hthroughout⟩ := fits_along_runs (by decide : duel.InRange) hspawn hb' impRules
  obtain ⟨htr, hafter⟩ := hthroughout _ _ tr b'' spawnsInRange_impRules hunfolds
  exact ⟨b', tr, b'', hb', hb'', hunfolds, hfits, htr, hafter⟩

/-- The hero faces a miser and a beggar, both down. -/
def windfall : Battle :=
  let foe (id : ActorId) (xp : Int) : Actor :=
    { id := id, name := id, stats := { maxHp := 8, xp := xp }, alive := false }
  ((((bare ⟨7⟩).enter .player hero).enter .enemy (foe "miser" greatestWhole)).enter .enemy
    (foe "beggar" 1)).announce "Turn 1"

/-- Both battles are in range, but the hero's attack is to fall by a number of three hundred digits,
and the miser and the beggar together leave more than a whole number. -/
theorem falls_and_spoils_overflow :
    duel.InRange ∧ duel.applyImmediate? {} (.modifyStat .attack (-1e300)) {} "slime" "hero" = none ∧
      windfall.InRange ∧ windfall.isDown .enemy = true ∧ windfall.grantRewards? = none := by
  decide +kernel

end Battle

end Skirmish
