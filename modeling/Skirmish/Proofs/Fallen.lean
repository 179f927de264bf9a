import Skirmish.Proofs.History
import Skirmish.Proofs.Progress
import Skirmish.Proofs.Taunts

/-!
# The fallen

Where no effect revives, an actor that is down stays down, with the stats that it has. Everything
that changes the stats of an actor asks whether it is alive: the effects that reach it, which ask
again for each target when its turn comes, the payment for its actions and the reward of a victory
(`Unfolds.lies`).

Being down, an actor is found by no search that leaves the dead out, it plays no action, and no turn
comes to it: a battle that goes on after the end of a turn has someone alive, and the turn goes to
the first of them (`isAlive_currentActor?_of_passOn`).
-/

namespace Skirmish

namespace Battle

/-! ## Searches -/

/-- **Whoever is found by a search that leaves the dead out is alive**, with and without a taunt. -/
theorem isAlive_of_found {b : Battle} {s : Selector} {acting x : ActorId} {named : List ActorId}
    (hs : s.includeDead = false) (h : x ∈ (b.resolveTargets s acting named).1) :
    b.isAlive x = true := by
  have hfree : x ∈ (b.freeTargets s acting named).1 → b.isAlive x = true := by
    intro hx
    have hpool := mem_freeTargets hx
    unfold pool at hpool
    split at hpool
    · cases hpool
    · simpa [hs] using (List.mem_filter.1 hpool).2
  unfold resolveTargets at h
  split at h
  · split at h
    · next y hy =>
      obtain rfl := List.mem_singleton.1 h
      exact (Option.filter_eq_some_iff.1 hy).2
    · rw [freeTargets_dropTaunt] at h
      exact hfree h
  · exact hfree h

/-! ## Lying down -/

/-- An actor is down, with some stats. -/
def Lies (b : Battle) (x : ActorId) (st : Stats) : Prop :=
  ∃ a, b.actor? x = some a ∧ a.alive = false ∧ a.stats = st

variable {b b' : Battle} {x : ActorId} {st : Stats}

theorem Lies.isAlive (h : b.Lies x st) : b.isAlive x = false := by
  obtain ⟨a, ha, hdown, -⟩ := h
  simp [Battle.isAlive, ha, hdown]

theorem Lies.congr (h : b.Lies x st) (hactors : b'.actors = b.actors) : b'.Lies x st := by
  obtain ⟨a, ha, hdown, hst⟩ := h
  exact ⟨a, by rwa [actor?, hactors], hdown, hst⟩

/-- An actor stays as it lies where another one is changed, or where the change leaves whoever is
down as it lies. -/
theorem Lies.modifyActor (h : b.Lies x st) {id : ActorId} {f : Actor → Actor}
    (hf : ∀ a, b.actor? id = some a → a.alive = false →
      (f a).alive = false ∧ (f a).stats = a.stats) : (b.modifyActor id f).Lies x st := by
  obtain ⟨a, ha, hdown, hst⟩ := h
  by_cases hx : x = id
  · subst hx
    obtain ⟨hdown', hst'⟩ := hf a ha hdown
    exact ⟨f a, by rw [actor?_modifyActor, if_pos rfl, ha]; rfl, hdown', hst'.trans hst⟩
  · exact ⟨a, by rwa [actor?_modifyActor, if_neg hx], hdown, hst⟩

theorem Lies.modify_other (h : b.Lies x st) {id : ActorId} (hid : b.isAlive id = true)
    (f : Actor → Actor) : (b.modifyActor id f).Lies x st :=
  h.modifyActor fun _ ha hdown => nomatch (alive_of_isAlive hid ha).symm.trans hdown

end Battle

/-! ## Resolution -/

/-- What an effect can do to an actor that is down leaves it as it lies. -/
theorem Actor.Undergoes.lying {a a' : Actor} (h : a.Undergoes a') (hdown : a.alive = false) :
    a'.alive = false ∧ a'.stats = a.stats := by
  cases h with
  | afflictions => exact ⟨hdown, rfl⟩
  | healed ha => cases ha.symm.trans hdown
  | swayed ha => cases ha.symm.trans hdown
  | adjusted ha => cases ha.symm.trans hdown
  | collapsed =>
    have hkept : a.collapse = a := by simp [Actor.collapse, hdown]
    rw [hkept]
    exact ⟨hdown, rfl⟩

/-- An effect that does not revive. -/
def Effect.LetsLie (e : Effect) : Prop := e.kind ≠ .revive

variable {rules : Rules} {b b' : Battle} {x : ActorId} {st : Stats}

theorem Change.lies (h : Change rules Effect.LetsLie b b') (hb : b.Lies x st) : b'.Lies x st := by
  cases h with
  | undergone id f hf => exact hb.modifyActor fun a ha hdown => (hf a ha).lying hdown
  | revived e hc hk => exact absurd hk hc
  | joined side template level n a _ _ _ _ hfree =>
    obtain ⟨a', ha', hlying⟩ := hb
    have hother : x ≠ Battle.summonId template n := by
      rintro rfl
      rw [Table.contains_iff.2 ⟨a', ha'⟩] at hfree
      cases hfree
    exact ⟨a', (Table.get?_insert_of_ne hother _).trans ha', hlying⟩
  | _ => exact hb.congr rfl

theorem Changes.lies (h : Changes rules Effect.LetsLie b b') (hb : b.Lies x st) : b'.Lies x st :=
  h.induction (fun _ _ hb hchange => hchange.lies hb) hb

namespace Battle

/-! ## Calls -/

theorem Lies.search (h : b.Lies x st) (s : Selector) (id : ActorId) (named : List ActorId) :
    (b.resolveTargets s id named).2.Lies x st := by
  obtain ⟨m, taunts, heq, -⟩ := b.resolveTargets_battle s id named
  rw [heq]
  exact h.congr rfl

theorem Lies.pay (h : b.Lies x st) {id : ActorId} (hid : b.isAlive id = true) (act : Action) :
    (b.pay id act).Lies x st := by
  obtain ⟨cooldowns, charges, inventory, heq⟩ := b.pay_eq id act
  rw [heq]
  exact (h.modify_other hid _).congr rfl

/-- Rewards go to the living. -/
theorem Lies.rewardAll (h : b.Lies x st) {ids : List ActorId}
    (hids : ∀ id ∈ ids, b.isAlive id = true) (xp gold : Int) :
    (b.rewardAll xp gold ids).Lies x st := by
  have hother : ∀ id ∈ ids, x ≠ id := by
    rintro id hid rfl
    cases (hids _ hid).symm.trans h.isAlive
  have hgained : ∀ c : Battle, ∀ id ∈ ids, ∀ f : Actor → Actor, c.Lies x st →
      (c.modifyActor id f).Lies x st := by
    rintro c id hid f ⟨a, ha, hlying⟩
    exact ⟨a, by rwa [actor?_modifyActor, if_neg (hother id hid)], hlying⟩
  exact rewardAll_induction (P := fun c => c.Lies x st) h (fun c id hid => hgained c id hid _)
    fun c id hid => hgained c id hid _

theorem Lies.judge (h : b.Lies x st) : b.judge.2.Lies x st := by
  unfold Battle.judge
  split
  · exact h
  · split
    · exact h
    · have hfinished : (b.finish .victory).Lies x st := h.congr rfl
      exact (hfinished.rewardAll (fun id hid => (List.mem_filter.1 hid).2) _ _).congr rfl
    · exact h.congr rfl
    · exact h.congr rfl

theorem Lies.passOn (h : b.Lies x st) : b.passOn.Lies x st := by
  have hjudged := h.judge
  unfold Battle.passOn
  split
  · next heq => rwa [heq] at hjudged
  · next c heq =>
    rw [heq] at hjudged
    obtain ⟨round, current, log, hadvanced, -⟩ := c.advance_spec c.order.length
    rw [hadvanced]
    exact hjudged.congr rfl

theorem Lies.countBoundary (h : b.Lies x st) (id : ActorId) : (b.countBoundary id).Lies x st := by
  obtain ⟨prevented, taunts, heq⟩ := b.countBoundary_eq id
  rw [heq]
  exact h.congr rfl

/-- **In a call that revives no one, whoever is down stays as it lies**, before each deed of the
call and after the call. -/
theorem Unfolds.lies {c : Call} {tr : Trace} (h : b.Unfolds rules Effect.LetsLie c tr b')
    (hb : b.Lies x st) : (∀ p ∈ tr, p.1.Lies x st) ∧ b'.Lies x st := by
  have htraced : ∀ {b₁ b₂ : Battle}, Traced rules Effect.LetsLie b₁ tr b₂ → b₁.Lies x st →
      (∀ p ∈ tr, p.1.Lies x st) ∧ b₂.Lies x st := by
    intro b₁ b₂ h hb₁
    refine ⟨fun p hp => ?_, h.course.changes.lies hb₁⟩
    obtain ⟨before, after, rfl⟩ := List.append_of_mem hp
    exact h.split.1.course.changes.lies hb₁
  have hnone : ∀ {b₁ : Battle}, b₁.Lies x st → (∀ p ∈ ([] : Trace), p.1.Lies x st) ∧ b₁.Lies x st :=
    fun h => ⟨List.forall_mem_nil _, h⟩
  cases h with
  | refused => exact hnone (hb.congr rfl)
  | @played act id named targets report b₁ b₂ tr flow hvalid haimed hworks =>
    have hsearched := hb.search act.targeting id named
    obtain ⟨m, taunts, heq, -⟩ := b.resolveTargets_battle act.targeting id named
    rw [haimed] at hsearched heq
    obtain rfl : b₁ = _ := heq
    obtain ⟨a, ha⟩ := checkActor_of_validate hvalid
    obtain ⟨-, ha, halive, -⟩ := checkActor_eq_ok_iff.1 ha
    have hid : b.isAlive id = true := by simp [Battle.isAlive, ha, halive]
    obtain ⟨hamid, hafter⟩ := htraced hworks.traced (hsearched.pay hid act)
    have hsaid : (b₂.announce s!"{b₂.nameOf id} used {act.name}.").Lies x st := hafter.congr rfl
    exact ⟨hamid, hsaid.judge⟩
  | passed _ _ _ hticks =>
    obtain ⟨hamid, hafter⟩ := htraced hticks.traced hb
    exact ⟨hamid, (hafter.countBoundary _).passOn⟩
  | lapsed => exact hnone (hb.countBoundary _).passOn
  | idle => exact hnone hb
  | judged => exact hnone hb.judge
  | @chose id acts =>
    obtain ⟨m, heq⟩ := b.chooseAction_seed id acts
    exact hnone (by rw [heq]; exact hb.congr rfl)
  | aimed => exact hnone (hb.search ..)
  | resolved _ hworks => exact htraced hworks.traced hb
  | bounded _ hticks => exact htraced hticks.traced hb
  | @cleansed id tags =>
    have hcleansed : Changes rules Effect.LetsLie b _ := b.changes_cleanse rules.codex id tags
    exact hnone (hcleansed.lies hb)
  | @dispelled id status =>
    have hdispelled : Changes rules Effect.LetsLie b _ := b.changes_dispel rules.codex id status
    exact hnone (hdispelled.lies hb)

/-! ## Turns -/

/-- Where the battle goes on after a turn is passed on, the actor whose turn comes is alive. -/
theorem isAlive_currentActor?_of_passOn {c : Battle} (hc : c.Enrolled)
    (hcur : c.current < c.order.length) (hend : c.ended = none ∨ c.ended = some .fled)
    (hgoing : c.passOn.ended = none) : c.passOn.currentActor?.any c.passOn.isAlive = true := by
  obtain ⟨hadvance, p, hp, halive⟩ := passOn_of_going hend hgoing
  have hmem : p ∈ c.order := hc.perm.mem_iff.2 (List.mem_append_left _ hp)
  obtain ⟨k, -, hk, heq, hkalive, -⟩ :=
    advance_eq_goOn c.order.length c hcur (by omega) (exists_aliveAfter hcur hmem halive)
  obtain ⟨horder, hisAlive⟩ := c.goOn_keeps k
  rw [hadvance, heq, currentActor?, horder, hisAlive, goOn_current (by omega)]
  exact hkalive

/-- Where the battle is over after a turn is passed on, the turn stays where it was. -/
theorem current_passOn_of_over {c : Battle} (hover : c.passOn.ended ≠ none) :
    c.passOn.current = c.current := by
  obtain ⟨ended, actors, lines, hjudged⟩ := c.judge_eq
  unfold Battle.passOn at hover ⊢
  split at hover
  · next heq =>
    rw [heq] at hjudged
    obtain rfl := hjudged
    rfl
  · next c' heq =>
    obtain ⟨rfl, -⟩ := judge_eq_none heq
    have hnone : c'.ended = none := by
      unfold Battle.judge at heq
      split at heq
      · cases heq
      · assumption
    rw [(c'.sameSides_advance _).ended, hnone] at hover
    exact absurd rfl hover

/-- The end of a turn does not give the turn to whoever is down: the actor could only have had it
before, in a battle that is over. -/
theorem Answers.passes_by {content : Effect → Prop} (h : b.Answers rules content .pass b')
    (hb : b.Rostered) (hdown : b'.isAlive x = false) (hx : b'.currentActor? = some x) :
    b.currentActor? = some x ∧ b'.isOver = true := by
  cases h with
  | @passed id b₁ hid hticked =>
    obtain ⟨hgoing, hcurrent⟩ := actingActor?_eq_some_iff.1 hid
    have hsame := hticked.sameTurn
    obtain ⟨henrolled, hcur⟩ : b₁.Enrolled ∧ b₁.current < b₁.order.length :=
      hticked.evolves.induction (fun _ _ h hshift => hshift.enrolled h) ⟨hb.enrolled, hb.current⟩
    have horder : b.order <+: (b₁.countBoundary id).passOn.order :=
      (hticked.precedes.order.trans (b₁.precedes_countBoundary id).order).trans
        (precedes_passOn _).order
    have hplace : (b₁.countBoundary id).current = b.current := by
      obtain ⟨prevented, taunts, heq⟩ := b₁.countBoundary_eq id
      rw [heq]
      exact hsame.current
    have hend : (b₁.countBoundary id).ended = none ∨ (b₁.countBoundary id).ended = some .fled := by
      rw [ended_countBoundary]
      exact hsame.none_or_fled (.inl hgoing)
    have hcounted : (b₁.countBoundary id).Enrolled ∧
        (b₁.countBoundary id).current < (b₁.countBoundary id).order.length := by
      obtain ⟨prevented, taunts, heq⟩ := b₁.countBoundary_eq id
      rw [heq]
      exact ⟨⟨henrolled.nodup, henrolled.perm, henrolled.keys, henrolled.own⟩, hcur⟩
    generalize b₁.countBoundary id = c at *
    by_cases hover : c.passOn.ended = none
    · have halive := isAlive_currentActor?_of_passOn hcounted.1 hcounted.2 hend hover
      rw [hx, Option.any_some, hdown] at halive
      cases halive
    · refine ⟨?_, Option.isSome_iff_ne_none.2 hover⟩
      obtain ⟨rest, hrest⟩ := horder
      rw [currentActor?, current_passOn_of_over hover, hplace, ← hrest,
        List.getElem?_append_left hb.current] at hx
      exact hx
  | idle hid =>
    refine ⟨hx, ?_⟩
    by_contra hgoing
    rw [actingActor?, if_neg hgoing, hx] at hid
    cases hid
  | resolved hc => cases hc

/-! ## Runs -/

/-- An actor is down with some stats, it cannot play, and no search that leaves the dead out finds
it. -/
structure Inert (b : Battle) (x : ActorId) (st : Stats) : Prop where
  lies : b.Lies x st
  refused : ∀ rules act named b' report, b.perform? rules act x named ≠ some (b', .ok report)
  unfound : ∀ s id named, s.includeDead = false → x ∉ (b.resolveTargets s id named).1

theorem Lies.inert (h : b.Lies x st) : b.Inert x st where
  lies := h
  refused rules act named b' report hplayed := by
    rcases perform?_cases hplayed with ⟨r, hr, -⟩ | ⟨report, targets, b₁, -, hvalid, -⟩
    · cases hr
    · obtain ⟨a, ha⟩ := checkActor_of_validate hvalid
      obtain ⟨-, ha, halive, -⟩ := checkActor_eq_ok_iff.1 ha
      obtain ⟨a', ha', hdown, -⟩ := h
      obtain rfl := Option.some.inj (ha.symm.trans ha')
      cases halive.symm.trans hdown
  unfound s id named hs hfound := by
    cases (isAlive_of_found hs hfound).symm.trans h.isAlive

/-- **Where nothing revives, death is permanent and inert.** However a battle goes on from one in
which an actor is down, as long as no effect of a call or of a hook revives, the actor stays down
with the stats that it had, no action of it is played, and it is found by no search that leaves the
dead out: between calls, and before each deed within a call. The end of a turn does not make it the
current actor; at most it had the turn already, and the battle is over. -/
theorem death_is_permanent {b b' : Battle} (hb : b.Rostered) {x : ActorId} {a : Actor}
    (ha : b.actor? x = some a) (hdown : a.alive = false)
    (hrun : b.Stretch (fun _ q _ => q.Within Effect.LetsLie) b') :
    b'.Inert x a.stats ∧
      (∀ (q : Request) (tr : Trace) (c : Battle),
        b'.Unfolds q.rules Effect.LetsLie q.call tr c → ∀ p ∈ tr, p.1.Inert x a.stats) ∧
      ∀ (rules : Rules) (c : Battle), rules.codex.HooksWithin Effect.LetsLie →
        b'.endTurn? rules = some c → c.currentActor? = some x →
          b'.currentActor? = some x ∧ c.isOver = true := by
  have hlies : b'.Lies x a.stats :=
    hrun.induction (I := (·.Lies x a.stats)) (fun c q c' hc hq hwithin =>
      have ⟨_, hunfolds⟩ := unfolds_of_after? hwithin hq
      (hunfolds.lies hc).2) ⟨a, ha, hdown, rfl⟩
  refine ⟨hlies.inert, fun q tr c hunfolds p hp => ((hunfolds.lies hlies).1 p hp).inert, ?_⟩
  intro rules c hhooks hpassed hx
  have hwithin : Request.Within ⟨rules, .pass⟩ Effect.LetsLie := ⟨hhooks, List.forall_mem_nil _⟩
  obtain ⟨tr, hunfolds⟩ := unfolds_of_after? hwithin hpassed
  exact hunfolds.answers.passes_by (hrun.rostered hb) (hunfolds.lies hlies).2.isAlive hx

theorem fresh_ambush : ambush.Fresh :=
  ⟨⟨7⟩, [hero], [slime, { slime with id := "wolf", name := "Wolf" }], ambush, ∅, rfl, rfl⟩

/-- Where no status is registered and a call has no effects of its own, nothing revives. -/
theorem within_pass : Request.Within ⟨{}, .pass⟩ Effect.LetsLie where
  hooks _ _ h := nomatch h
  own := List.forall_mem_nil _

/-- The slime that the hero cuts down lies there for the rest of the ambush: its turn is left out
when the others end theirs. -/
theorem slime_stays_down :
    ∃ b a b', ambush.run? [⟨{}, .play finisher "hero" ["slime"]⟩] = some b ∧
      b.actor? "slime" = some a ∧ a.alive = false ∧
      b.run? [⟨{}, .pass⟩, ⟨{}, .pass⟩] = some b' ∧ b'.currentActor? = some "hero" ∧
      b'.ended = none ∧ b'.Inert "slime" a.stats := by
  have hcut : (ambush.run? [⟨{}, .play finisher "hero" ["slime"]⟩]).bind
      (fun b => (b.actor? "slime").map (·.alive)) = some false := by
    decide +kernel
  obtain ⟨b, hb, hslime⟩ := Option.bind_eq_some_iff.1 hcut
  obtain ⟨a, ha, hdown⟩ := Option.map_eq_some_iff.1 hslime
  have hround : ((ambush.run? [⟨{}, .play finisher "hero" ["slime"]⟩]).bind
      (·.run? [⟨{}, .pass⟩, ⟨{}, .pass⟩])).map (fun b => (b.currentActor?, b.ended)) =
        some (some "hero", none) := by
    decide +kernel
  rw [hb, Option.bind_some] at hround
  obtain ⟨b', hb', heq⟩ := Option.map_eq_some_iff.1 hround
  obtain ⟨hcurrent, hgoing⟩ := Prod.mk.inj heq
  have hstretch : b.Stretch (fun _ q _ => q.Within Effect.LetsLie) b' :=
    stretch_of_run? (by simpa using within_pass) hb'
  exact ⟨b, a, b', hb, ha, hdown, hb', hcurrent, hgoing,
    (death_is_permanent (fresh_ambush.rostered.after_run hb) ha hdown hstretch).1⟩

end Battle

end Skirmish
