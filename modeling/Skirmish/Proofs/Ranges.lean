import Skirmish.Proofs.Frames
import Skirmish.Proofs.Vitals

/-!
# The range of numbers

The numbers of a battle are whole numbers of 64 bits. Where those of its actors and of their shields
are not negative either and no resource is beyond its maximum, the battle is `InRange`. Sums of them
saturate, losses stop at zero, and whatever a shield is granted is the nearest whole number to a
double. So each deed keeps a battle in range (`Battle.InRange.deed`), and so does every run of calls
(`Battle.inRange_of_run`), as long as the actors that are summoned are made in range. The spoils of
a victory may be beyond the range, but the purses that they are put into are not.
-/

namespace Skirmish

/-! ## Amounts -/

/-- A whole number that is not negative. -/
def IsAmount (n : Int) : Prop := 0 ≤ n ∧ n ≤ greatestWhole

instance (n : Int) : Decidable (IsAmount n) := inferInstanceAs (Decidable (_ ∧ _))

theorem isAmount_zero : IsAmount 0 := by decide

theorem isAmount_nearestAbove (x : Float) : IsAmount (nearestAbove x) :=
  ⟨nearestAbove_nonneg x, (isWhole_nearestAbove x).2⟩

theorem isAmount_saturate {n : Int} (h : 0 ≤ n) : IsAmount (saturate n) :=
  ⟨saturate_nonneg h, (isWhole_saturate n).2⟩

/-- A sum that is below zero counts as none. -/
theorem isAmount_max_saturate (n : Int) : IsAmount (max 0 (saturate n)) := by
  have hmost := (isWhole_saturate n).2
  have hpos : 0 ≤ greatestWhole := by decide
  unfold IsAmount
  omega

/-- What is left of an amount is one. -/
theorem IsAmount.sub_min {m : Int} (h : IsAmount m) {n : Int} (hn : 0 ≤ n) :
    IsAmount (m - min m n) := by
  unfold IsAmount at *
  omega

theorem foldr_add_nonneg {ns : List Int} (h : ∀ n ∈ ns, 0 ≤ n) : 0 ≤ ns.foldr (· + ·) 0 := by
  induction ns with
  | nil => exact Int.le_refl 0
  | cons n ns ih =>
    obtain ⟨hn, hns⟩ := List.forall_mem_cons.1 h
    exact Int.add_nonneg hn (ih hns)

/-! ## Stats -/

namespace Stats

/-- Every number is an amount, and no resource is beyond its maximum. -/
structure InRange (s : Stats) : Prop where
  bounded : s.Bounded
  stat : ∀ k, IsAmount (s.stat k)
  xp : IsAmount s.xp
  gold : IsAmount s.gold

theorem inRange_iff {s : Stats} : s.InRange ↔ s.Bounded ∧
    ((IsAmount s.attack ∧ IsAmount s.defence ∧ IsAmount s.level) ∧
      IsAmount s.maxHp ∧ IsAmount s.maxSta ∧ IsAmount s.maxMp) ∧
      IsAmount s.xp ∧ IsAmount s.gold := by
  constructor
  · intro h
    exact ⟨h.bounded, ⟨⟨h.stat .attack, h.stat .defence, h.stat .level⟩,
      h.stat .maxHp, h.stat .maxSta, h.stat .maxMp⟩, h.xp, h.gold⟩
  · intro ⟨hbounded, ⟨⟨hattack, hdefence, hlevel⟩, hhp, hsta, hmp⟩, hxp, hgold⟩
    exact ⟨hbounded, fun k => by cases k <;> assumption, hxp, hgold⟩

instance (s : Stats) : Decidable s.InRange := decidable_of_iff _ inRange_iff.symm

theorem stat_set (s : Stats) (r : Resource) (n : Int) (k : StatKind) :
    (s.set r n).stat k = s.stat k := by
  cases r <;> cases k <;> rfl

theorem stat_withStat (s : Stats) (k q : StatKind) (n : Int) :
    (s.withStat k n).stat q = if q = k then n else s.stat q := by
  cases k <;> cases q <;> rfl

namespace InRange

variable {s : Stats}

theorem maximum (h : s.InRange) (r : Resource) : IsAmount (s.maximum r) := by
  cases r with
  | hp => exact h.stat .maxHp
  | sta => exact h.stat .maxSta
  | mp => exact h.stat .maxMp

theorem current (h : s.InRange) (r : Resource) : IsAmount (s.current r) :=
  ⟨(h.bounded r).1, Int.le_trans (h.bounded r).2 (h.maximum r).2⟩

theorem set (h : s.InRange) (r : Resource) (n : Int) : (s.set r n).InRange where
  bounded := h.bounded.set r n
  stat k := by
    rw [stat_set]
    exact h.stat k
  xp := by cases r <;> exact h.xp
  gold := by cases r <;> exact h.gold

theorem add (h : s.InRange) (r : Resource) (n : Int) : (s.add r n).InRange := h.set r _

theorem adjust (h : s.InRange) (k : StatKind) (n : Int) : (s.adjust k n).InRange where
  bounded := h.bounded.adjust k n
  stat q := by
    simp only [Stats.adjust, settle, stat_set, stat_withStat]
    split
    · exact isAmount_max_saturate _
    · exact h.stat q
  xp := by cases k <;> exact h.xp
  gold := by cases k <;> exact h.gold

theorem withPurse (h : s.InRange) {xp gold : Int} (hxp : IsAmount xp) (hgold : IsAmount gold) :
    ({ s with xp := xp, gold := gold } : Stats).InRange where
  bounded := h.bounded.congr (fun r => by cases r <;> rfl) fun r => by cases r <;> rfl
  stat k := by
    have hk := h.stat k
    cases k <;> exact hk
  xp := hxp
  gold := hgold

theorem gainXp (h : s.InRange) {n : Int} (hn : 0 ≤ n) :
    ({ s with xp := saturate (s.xp + n) } : Stats).InRange :=
  h.withPurse (isAmount_saturate (Int.add_nonneg h.xp.1 hn)) h.gold

theorem gainGold (h : s.InRange) {n : Int} (hn : 0 ≤ n) :
    ({ s with gold := saturate (s.gold + n) } : Stats).InRange :=
  h.withPurse h.xp (isAmount_saturate (Int.add_nonneg h.gold.1 hn))

end InRange

end Stats

namespace Actor

theorem inRange_faint {a : Actor} (h : a.stats.InRange) : a.faint.stats.InRange := by
  have hzero : Stats.between a.stats.maxHp 0 = 0 := by
    unfold Stats.between
    omega
  -- to faint is to have the hp set to zero
  have hset : a.stats.set .hp 0 = a.faint.stats := by
    change a.stats.withCurrent .hp (Stats.between a.stats.maxHp 0) = _
    rw [hzero]
    rfl
  rw [← hset]
  exact h.set .hp 0

theorem inRange_collapse {a : Actor} (h : a.stats.InRange) : a.collapse.stats.InRange := by
  unfold collapse
  split
  · exact inRange_faint h
  · exact h

theorem Undergoes.inRange {a a' : Actor} (h : a.Undergoes a') (ha : a.stats.InRange) :
    a'.stats.InRange := by
  cases h with
  | afflictions => exact ha
  | healed _ r n => exact ha.add r n
  | swayed _ r n => exact inRange_collapse (ha.add r n)
  | adjusted _ k n => exact inRange_collapse (ha.adjust k n)
  | collapsed => exact inRange_collapse ha

end Actor

/-! ## Shields -/

/-- Each shield absorbs an amount. -/
def Shield.InRange (ss : List Shield) : Prop := ∀ s ∈ ss, IsAmount s.hp

instance (ss : List Shield) : Decidable (Shield.InRange ss) :=
  inferInstanceAs (Decidable (∀ _ ∈ _, _))

namespace Shield.InRange

variable {ss : List Shield}

theorem filter (h : InRange ss) (p : Shield → Bool) : InRange (ss.filter p) :=
  fun s hs => h s (List.mem_filter.1 hs).1

theorem grant (h : InRange ss) (id : String) (element : Option String) {amount : Int}
    (hamount : IsAmount amount) : InRange (Shield.grant id element amount ss) := by
  induction ss with
  | nil => exact List.forall_mem_singleton.2 hamount
  | cons s ss ih =>
    obtain ⟨hs, hss⟩ := List.forall_mem_cons.1 h
    unfold Shield.grant
    split
    · exact List.forall_mem_cons.2 ⟨isAmount_saturate (Int.add_nonneg hs.1 hamount.1), hss⟩
    · exact List.forall_mem_cons.2 ⟨hs, ih hss⟩

theorem drain (h : InRange ss) (element : Option String) {left : Int} (hleft : 0 ≤ left) :
    InRange (Shield.drain element left ss).1 := by
  induction ss generalizing left with
  | nil => exact h
  | cons s ss ih =>
    obtain ⟨hs, hss⟩ := List.forall_mem_cons.1 h
    unfold Shield.drain
    split
    · exact h
    · split
      · exact List.forall_mem_cons.2 ⟨hs.sub_min hleft, ih hss (by omega)⟩
      · exact List.forall_mem_cons.2 ⟨hs, ih hss hleft⟩

end Shield.InRange

/-! ## Battles -/

/-- Whatever level they are given, the makers of enemies make actors in range. -/
def Codex.SpawnsInRange (c : Codex) : Prop :=
  ∀ template level a, level ≤ greatestCount → c.spawn? template level = some a → a.stats.InRange

namespace Battle

/-- The numbers of all actors are in range. -/
def ActorsInRange (b : Battle) : Prop := b.actors.Each fun _ a => a.stats.InRange

/-- All shields absorb amounts. -/
def ShieldsInRange (b : Battle) : Prop := b.shields.Each fun _ ss => Shield.InRange ss

/-- The numbers of all actors are in range, and so are their shields. -/
structure InRange (b : Battle) : Prop where
  actors : b.ActorsInRange
  shields : b.ShieldsInRange

instance (b : Battle) : Decidable b.InRange :=
  decidable_of_iff ((b.actors.Each fun _ a => a.stats.InRange) ∧
      b.shields.Each fun _ ss => Shield.InRange ss)
    ⟨fun h => ⟨h.1, h.2⟩, fun h => ⟨h.1, h.2⟩⟩

variable {b b' : Battle} {rules : Rules} {content : Effect → Prop}

theorem ActorsInRange.congr (h : b.ActorsInRange) (heq : b'.actors = b.actors) :
    b'.ActorsInRange := by
  rw [ActorsInRange, heq]
  exact h

theorem ShieldsInRange.congr (h : b.ShieldsInRange) (heq : b'.shields = b.shields) :
    b'.ShieldsInRange := by
  rw [ShieldsInRange, heq]
  exact h

theorem InRange.congr (h : b.InRange) (hactors : b'.actors = b.actors)
    (hshields : b'.shields = b.shields) : b'.InRange :=
  ⟨h.actors.congr hactors, h.shields.congr hshields⟩

/-- What holds of all numbers in range holds of those of the enemies. -/
theorem InRange.forall_enemies (h : b.InRange) {f : Stats → Int}
    (hf : ∀ s : Stats, s.InRange → 0 ≤ f s) :
    ∀ n ∈ (b.enemies.filterMap b.actor?).map (fun a => f a.stats), 0 ≤ n := by
  refine List.forall_mem_map.2 fun a ha => ?_
  obtain ⟨id, -, hid⟩ := List.mem_filterMap.1 ha
  exact hf _ (h.actors id a hid)

/-! ## What happens to actors -/

theorem ActorsInRange.modifyActor (h : b.ActorsInRange) (id : ActorId) {f : Actor → Actor}
    (hf : ∀ a, b.actor? id = some a → a.stats.InRange → (f a).stats.InRange) :
    (b.modifyActor id f).ActorsInRange :=
  Table.Each.modify h hf

end Battle

section

variable {b b' : Battle} {rules : Rules} {content : Effect → Prop}

theorem Change.actorsInRange (h : Change rules content b b') (hspawn : rules.codex.SpawnsInRange)
    (hb : b.ActorsInRange) : b'.ActorsInRange := by
  cases h with
  | undergone id f hf => exact hb.modifyActor id fun a ha hrange => (hf a ha).inRange hrange
  | revived e hc hk id n => exact hb.modifyActor id fun _ _ hrange => hrange.set .hp n
  | joined side template level n a hlevel ha =>
    have hmade : a.stats.InRange := hspawn template level a hlevel ha
    exact Table.Each.insert hb hmade
  | _ => exact hb.congr rfl

theorem Changes.actorsInRange (h : Changes rules content b b') (hspawn : rules.codex.SpawnsInRange)
    (hb : b.ActorsInRange) : b'.ActorsInRange :=
  h.induction (fun _ _ hb hchange => hchange.actorsInRange hspawn hb) hb

end

namespace Battle

variable {b b' : Battle} {rules : Rules} {content : Effect → Prop}

/-! ## What happens to shields -/

namespace ShieldsInRange

theorem shieldsOf (h : b.ShieldsInRange) (id : ActorId) : Shield.InRange (b.shieldsOf id) := by
  unfold Battle.shieldsOf
  cases hss : b.shields.get? id with
  | none => exact List.forall_mem_nil _
  | some ss => exact h id ss hss

theorem withShields (h : b.ShieldsInRange) (id : ActorId) {ss : List Shield}
    (hss : Shield.InRange ss) : (b.withShields id ss).ShieldsInRange := by
  cases ss with
  | nil => exact h.erase id
  | cons s ss => exact h.insert hss

theorem removeShield (h : b.ShieldsInRange) (id : ActorId) (shield : String) :
    (b.removeShield id shield).ShieldsInRange :=
  h.withShields id ((h.shieldsOf id).filter _)

theorem addShield (h : b.ShieldsInRange) (id : ActorId) (shield : String)
    (element : Option String) {amount : Int} (hamount : IsAmount amount) :
    (b.addShield id shield element amount).ShieldsInRange :=
  h.withShields id ((h.shieldsOf id).grant shield element hamount)

theorem absorb (h : b.ShieldsInRange) (id : ActorId) (element : Option String) (amount : Int) :
    (b.absorb id element amount).2.ShieldsInRange :=
  h.withShields id (((h.shieldsOf id).drain element (by omega)).filter _)

theorem removeGranted (h : b.ShieldsInRange) (codex : Codex) (id : ActorId) (status : String) :
    (b.removeGranted codex id status).ShieldsInRange := by
  unfold Battle.removeGranted
  cases (codex.status? status).bind Status.shieldId? with
  | none => exact h
  | some shield => exact h.removeShield id shield

theorem removal (h : b.ShieldsInRange) (r : Removal) (codex : Codex) :
    (r.perform codex b).ShieldsInRange := by
  rcases r.perform_cases codex b with ⟨heq, -⟩ | heq
  · rw [heq]
    exact h
  · rw [heq]
    exact List.foldlRecOn (motive := ShieldsInRange) _ _ (h.congr rfl) fun _ hc st _ =>
      hc.removeGranted codex r.id st

theorem grantShield (h : b.ShieldsInRange) (codex : Codex) (id : ActorId) (s : Status) :
    (b.grantShield codex id s).ShieldsInRange := by
  unfold Battle.grantShield
  split
  · have hremoved := fun shield => h.removeShield id shield
    unfold Battle.setShield
    dsimp only
    split
    · exact (hremoved _).addShield id _ _ (isAmount_nearestAbove _)
    · exact hremoved _
  · exact h

/-- Deeds grant nothing but amounts. -/
theorem deed {d : Deed} (h : b.ShieldsInRange) : (d.perform rules b).ShieldsInRange := by
  cases d with
  | aim s id =>
    obtain ⟨m, taunts, heq, -⟩ := b.resolveTargets_battle s id []
    exact h.congr (by rw [Deed.perform, heq])
  | supply e o user =>
    obtain ⟨_, _, _, _, _, _, _, _, heq⟩ := b.supply_eq rules e o user
    exact h.congr (by rw [Deed.perform, heq])
  | strike e o user id rolls =>
    obtain ⟨_, _, _, _, heq, hsame | ⟨element, amount, habsorbed⟩⟩ :=
      b.strike_eq rules e o user id rolls
    · exact h.congr (by rw [Deed.perform, heq, hsame])
    · exact (h.absorb id element amount).congr (by rw [Deed.perform, heq, habsorbed])
  | change e o user id =>
    rcases b.applyImmediate_cases rules e o user id with ⟨_, _, heq⟩ | ⟨r, _, heq⟩ |
      ⟨shield, element, amount, _, ⟨hpos, hwhole⟩, heq⟩ | ⟨-, _, heq⟩ | ⟨-, _, heq⟩
    · exact h.congr (by rw [Deed.perform, heq])
    · exact (h.removal r rules.codex).congr (by rw [Deed.perform, heq])
    · exact (h.addShield id shield element ⟨hpos, hwhole.2⟩).congr (by rw [Deed.perform, heq])
    · exact h.congr (by rw [Deed.perform, heq])
    · exact h.congr (by rw [Deed.perform, heq])
  | afflict id st turns =>
    rw [Deed.perform]
    rcases b.afflict_eq rules.codex id st turns with heq | ⟨-, actors, log, n, -, heq⟩
    · rw [heq]
      exact h
    · rw [heq]
      have hsaid : ({ b with actors := actors, log := log } : Battle).ShieldsInRange := h.congr rfl
      exact hsaid.grantShield rules.codex id st
  | countDown | dropExpired => exact h.congr rfl
  | wearOff id status => exact (h.removeGranted rules.codex id status).congr rfl

end ShieldsInRange

/-! ## Deeds -/

/-- **A deed keeps a battle in range.** -/
theorem InRange.deed (h : b.InRange) (hspawn : rules.codex.SpawnsInRange) {d : Deed}
    (hd : d.May rules content b) : (d.perform rules b).InRange :=
  ⟨(d.changes hd).actorsInRange hspawn h.actors, h.shields.deed⟩

/-- Each deed of a trace is done in range, and so is what comes next. -/
theorem InRange.traced {tr : Trace} (h : b.InRange) (hspawn : rules.codex.SpawnsInRange)
    (htr : Traced rules content b tr b') : (∀ p ∈ tr, p.1.InRange) ∧ b'.InRange := by
  induction htr with
  | nil => exact ⟨List.forall_mem_nil _, h⟩
  | cons hd _ ih =>
    obtain ⟨hrest, hb'⟩ := ih (h.deed hspawn hd)
    exact ⟨List.forall_mem_cons.2 ⟨h, hrest⟩, hb'⟩

/-! ## Calls -/

theorem InRange.search (h : b.InRange) (s : Selector) (id : ActorId) (named : List ActorId) :
    (b.resolveTargets s id named).2.InRange := by
  obtain ⟨m, taunts, heq, -⟩ := b.resolveTargets_battle s id named
  rw [heq]
  exact h.congr rfl rfl

theorem InRange.pay (h : b.InRange) (id : ActorId) (act : Action) : (b.pay id act).InRange := by
  obtain ⟨cooldowns, charges, inventory, heq⟩ := b.pay_eq id act
  rw [heq]
  have hpaid : (b.payCosts id act.costs).ActorsInRange :=
    h.actors.modifyActor id fun _ _ hrange => (hrange.add .sta _).add .mp _
  exact ⟨hpaid, h.shields⟩

/-- What the enemies leave is no debt. -/
theorem InRange.spoils_nonneg (h : b.InRange) {f : Stats → Int}
    (hf : ∀ s : Stats, s.InRange → 0 ≤ f s) : 0 ≤ b.spoils f :=
  foldr_add_nonneg (h.forall_enemies hf)

theorem InRange.rewardAll (h : b.InRange) {xp gold : Int} (hxp : 0 ≤ xp) (hgold : 0 ≤ gold)
    (ids : List ActorId) : (b.rewardAll xp gold ids).InRange := by
  refine rewardAll_induction h ?_ ?_
  · exact fun _ id _ hc =>
      ⟨hc.actors.modifyActor id fun _ _ hrange => hrange.gainXp hxp, hc.shields⟩
  · exact fun _ id _ hc =>
      ⟨hc.actors.modifyActor id fun _ _ hrange => hrange.gainGold hgold, hc.shields⟩

theorem InRange.judge (h : b.InRange) : b.judge.2.InRange := by
  unfold Battle.judge
  split
  · exact h
  · split
    · exact h
    · have hfinished : (b.finish .victory).InRange := h.congr rfl rfl
      exact (hfinished.rewardAll (hfinished.spoils_nonneg fun _ hs => hs.xp.1)
        (hfinished.spoils_nonneg fun _ hs => hs.gold.1) _).congr rfl rfl
    · exact h.congr rfl rfl
    · exact h.congr rfl rfl

theorem InRange.passOn (h : b.InRange) : b.passOn.InRange := by
  have hjudged := h.judge
  unfold Battle.passOn
  split
  · next heq => rwa [heq] at hjudged
  · next c heq =>
    rw [heq] at hjudged
    obtain ⟨round, current, log, hadvanced, -⟩ := c.advance_spec c.order.length
    rw [hadvanced]
    exact hjudged.congr rfl rfl

theorem InRange.countBoundary (h : b.InRange) (id : ActorId) : (b.countBoundary id).InRange := by
  obtain ⟨prevented, taunts, heq⟩ := b.countBoundary_eq id
  rw [heq]
  exact h.congr rfl rfl

theorem InRange.removal (h : b.InRange) (r : Removal) (codex : Codex) :
    (r.perform codex b).InRange := by
  refine ⟨?_, h.shields.removal r codex⟩
  rcases r.perform_cases codex b with ⟨heq, -⟩ | heq
  · rw [heq]
    exact h.actors
  · rw [heq, detach, ActorsInRange, (foldl_removeGranted ..).1]
    exact h.actors.modifyActor r.id fun _ _ hrange => hrange

/-- **However a call unfolds, all that happens in it happens in range.** -/
theorem Unfolds.inRange {c : Call} {tr : Trace} (h : b.Unfolds rules content c tr b')
    (hspawn : rules.codex.SpawnsInRange) (hb : b.InRange) :
    (∀ p ∈ tr, p.1.InRange) ∧ b'.InRange := by
  cases h with
  | refused => exact ⟨List.forall_mem_nil _, hb.congr rfl rfl⟩
  | @played act id named targets _ b₁ b₂ _ _ _ haimed hworks =>
    have hsearched := hb.search act.targeting id named
    rw [haimed] at hsearched
    obtain ⟨htr, hworked⟩ := (hsearched.pay id act).traced hspawn hworks.traced
    have hsaid : (b₂.announce s!"{b₂.nameOf id} used {act.name}.").InRange := hworked.congr rfl rfl
    exact ⟨htr, hsaid.judge⟩
  | @passed id _ _ _ _ _ _ hticks =>
    obtain ⟨htr, hticked⟩ := hb.traced hspawn hticks.traced
    exact ⟨htr, (hticked.countBoundary id).passOn⟩
  | @lapsed id => exact ⟨List.forall_mem_nil _, (hb.countBoundary id).passOn⟩
  | idle => exact ⟨List.forall_mem_nil _, hb⟩
  | judged => exact ⟨List.forall_mem_nil _, hb.judge⟩
  | @chose id acts =>
    obtain ⟨m, heq⟩ := b.chooseAction_seed id acts
    rw [heq]
    exact ⟨List.forall_mem_nil _, hb.congr rfl rfl⟩
  | aimed => exact ⟨List.forall_mem_nil _, hb.search ..⟩
  | resolved _ hworks => exact hb.traced hspawn hworks.traced
  | bounded _ hticks => exact hb.traced hspawn hticks.traced
  | @cleansed id tags =>
    exact ⟨List.forall_mem_nil _, hb.removal (.cleansing rules.codex id tags) rules.codex⟩
  | @dispelled id status =>
    exact ⟨List.forall_mem_nil _, hb.removal (.dispelling id status) rules.codex⟩

/-- **Every run of calls keeps a battle in range.** -/
theorem inRange_of_run {qs : List Request} (hspawn : ∀ q ∈ qs, q.rules.codex.SpawnsInRange)
    (h : b.run? qs = some b') (hb : b.InRange) : b'.InRange := by
  induction qs generalizing b with
  | nil =>
    cases h
    exact hb
  | cons q qs ih =>
    obtain ⟨b₁, hq, hrest⟩ := Option.bind_eq_some_iff.1 h
    obtain ⟨hspawn', hspawns⟩ := List.forall_mem_cons.1 hspawn
    obtain ⟨tr, hunfolds⟩ := unfolds_of_after? q.within_true hq
    exact ih hspawns hrest (hunfolds.inRange hspawn' hb).2

end Battle

end Skirmish
