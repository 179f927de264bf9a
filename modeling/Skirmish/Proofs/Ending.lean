import Skirmish.Proofs.Nesting
import Skirmish.Proofs.Roster

/-!
# When a battle ends

Whatever happens within an action or at the boundary of a turn, the outcome is judged after it. So a
battle that is left by a played action or by a passed turn has ended exactly as its sides stand: in
victory if no enemy is alive, in defeat if some enemy but no player is, and not at all if both sides
have someone alive, unless someone fled (`ends_exactly`).

Between a judgement and the end of the call, only rewards are given and the turn is passed on.
Neither touches who is alive, which is what `SameSides` says.
-/

namespace Skirmish

namespace Battle

/-! ## How the sides stand -/

/-- The battle has ended exactly as its sides stand. -/
structure EndsExactly (b : Battle) : Prop where
  victory : b.ended = some .victory ↔ ∀ id ∈ b.enemies, b.isAlive id = false
  defeat : b.ended = some .defeat ↔
    (∃ id ∈ b.enemies, b.isAlive id = true) ∧ ∀ id ∈ b.players, b.isAlive id = false
  going : b.ended = none ↔
    (∃ id ∈ b.enemies, b.isAlive id = true) ∧ ∃ id ∈ b.players, b.isAlive id = true

theorem isDown_iff {b : Battle} {side : Side} :
    b.isDown side = true ↔ ∀ id ∈ b.roster side, b.isAlive id = false := by
  rw [isDown, living, List.isEmpty_iff, List.filter_eq_nil_iff]
  simp only [Bool.not_eq_true]

theorem isDown_eq_false_iff {b : Battle} {side : Side} :
    b.isDown side = false ↔ ∃ id ∈ b.roster side, b.isAlive id = true := by
  rw [← Bool.not_eq_true, isDown_iff]
  simp

/-- A battle that ends by its verdict ends exactly. -/
theorem endsExactly_of_verdict? {b : Battle} (h : b.ended = b.verdict?) : b.EndsExactly := by
  have henemy := @isDown_iff b .enemy
  have hplayer := @isDown_iff b .player
  have henemy' := @isDown_eq_false_iff b .enemy
  have hplayer' := @isDown_eq_false_iff b .player
  simp only [roster] at henemy hplayer henemy' hplayer'
  refine ⟨?_, ?_, ?_⟩
  · rw [h, ← henemy, verdict?]
    cases b.isDown .enemy <;> cases b.isDown .player <;> simp
  · rw [h, ← henemy', ← hplayer, verdict?]
    cases b.isDown .enemy <;> cases b.isDown .player <;> simp
  · rw [h, ← henemy', ← hplayer', verdict?]
    cases b.isDown .enemy <;> cases b.isDown .player <;> simp

/-! ## Keeping the sides -/

/-- The same sides stand with the same actors alive, and the end is the same. -/
structure SameSides (b b' : Battle) : Prop where
  players : b'.players = b.players
  enemies : b'.enemies = b.enemies
  alive : ∀ id, b'.isAlive id = b.isAlive id
  ended : b'.ended = b.ended

namespace SameSides

variable {b b' : Battle}

theorem refl (b : Battle) : b.SameSides b := ⟨rfl, rfl, fun _ => rfl, rfl⟩

theorem trans {b'' : Battle} (h : b.SameSides b') (h' : b'.SameSides b'') : b.SameSides b'' :=
  ⟨h'.players.trans h.players, h'.enemies.trans h.enemies,
    fun id => (h'.alive id).trans (h.alive id), h'.ended.trans h.ended⟩

theorem endsExactly (h : b.SameSides b') (hb : b.EndsExactly) : b'.EndsExactly := by
  refine ⟨?_, ?_, ?_⟩
  · simpa only [h.enemies, h.alive, h.ended] using hb.victory
  · simpa only [h.players, h.enemies, h.alive, h.ended] using hb.defeat
  · simpa only [h.players, h.enemies, h.alive, h.ended] using hb.going

end SameSides

/-- Whoever is changed in stats is as alive as before. -/
theorem sameSides_withStats (b : Battle) (id : ActorId) (f : Actor → Stats) :
    b.SameSides (b.modifyActor id fun a => { a with stats := f a }) := by
  refine ⟨rfl, rfl, fun q => ?_, rfl⟩
  rw [isAlive, actor?_modifyActor, isAlive]
  split
  · next hq =>
    subst hq
    cases b.actor? q <;> rfl
  · rfl

theorem sameSides_grantRewards (b : Battle) : b.SameSides b.grantRewards := by
  have hall : ∀ xp gold ids, b.SameSides (b.rewardAll xp gold ids) := fun xp gold ids =>
    rewardAll_induction (.refl b) (fun c id _ h => h.trans (c.sameSides_withStats id _))
      fun c id _ h => h.trans (c.sameSides_withStats id _)
  exact (hall ..).trans ⟨rfl, rfl, fun _ => rfl, rfl⟩

theorem sameSides_advance (b : Battle) (n : Nat) : b.SameSides (b.advance n) := by
  obtain ⟨round, current, log, heq, -⟩ := b.advance_spec n
  rw [heq]
  exact ⟨rfl, rfl, fun _ => rfl, rfl⟩

/-! ## Judging -/

/-- Judged while it goes on, a battle ends by its verdict. -/
theorem judge_of_going {b : Battle} (h : b.ended = none) :
    b.judge.1 = b.judge.2.ended ∧ b.judge.2.EndsExactly := by
  -- the verdict does not depend on how a battle has ended
  have hfinish : ∀ r, b.verdict? = some r → (b.finish r).ended = (b.finish r).verdict? := by
    intro r hr
    rw [finish, h]
    exact hr.symm
  unfold judge
  rw [h]
  cases hv : b.verdict? with
  | none => exact ⟨h.symm, endsExactly_of_verdict? (h.trans hv.symm)⟩
  | some r =>
    have hended : (b.finish r).ended = some r := by
      rw [finish, h]
      rfl
    have hexact := endsExactly_of_verdict? (hfinish r hv)
    cases r with
    | victory =>
      have hsame := (b.finish .victory).sameSides_grantRewards
      exact ⟨(hsame.ended.trans hended).symm, hsame.endsExactly hexact⟩
    | defeat => exact ⟨hended.symm, ⟨hexact.victory, hexact.defeat, hexact.going⟩⟩
    | fled => exact ⟨hended.symm, hexact⟩

/-- A battle that is over is judged as it ended. -/
theorem judge_of_ended {b : Battle} {r : EndReason} (h : b.ended = some r) :
    b.judge = (some r, b) := by
  rw [judge, h]

/-- Judged while it goes on or after a flight, a battle tells how it has ended and ends exactly
unless someone fled. -/
theorem judge_exact {b : Battle} (h : b.ended = none ∨ b.ended = some .fled) :
    b.judge.1 = b.judge.2.ended ∧ (b.judge.2.ended ≠ some .fled → b.judge.2.EndsExactly) := by
  rcases h with h | h
  · obtain ⟨hsame, hexact⟩ := judge_of_going h
    exact ⟨hsame, fun _ => hexact⟩
  · rw [judge_of_ended h]
    exact ⟨h.symm, fun hne => absurd h hne⟩

theorem SameTurn.none_or_fled {b b' : Battle} (h : b.SameTurn b')
    (hb : b.ended = none ∨ b.ended = some .fled) : b'.ended = none ∨ b'.ended = some .fled := by
  rcases h.ended with heq | ⟨-, hfled⟩
  · rw [heq]
    exact hb
  · exact .inr hfled

/-! ## Actions -/

theorem ended_pay (b : Battle) (id : ActorId) (act : Action) : (b.pay id act).ended = b.ended := by
  obtain ⟨cooldowns, charges, inventory, heq⟩ := b.pay_eq id act
  rw [heq]
  rfl

/-- A played action leaves a battle that has ended exactly, and reports how. -/
theorem exact_of_played {b b' : Battle} {rules : Rules} {act : Action} {id : ActorId}
    {named : List ActorId} {report : Report}
    (h : b.perform? rules act id named = some (b', .ok report)) :
    (b'.ended ≠ some .fled → b'.EndsExactly) ∧ report.outcome = b'.ended := by
  obtain ⟨r, hr, -⟩ | ⟨_, targets, b₁, hreport, hvalid, hs, -, hout⟩ := perform?_cases h
  · cases hr
  · cases hreport
    obtain ⟨a, ha⟩ := checkActor_of_validate hvalid
    have hgoing : b.ended = none := (checkActor_eq_ok_iff.1 ha).1
    -- neither the search nor the payment ends the battle
    have hpaid : (b₁.pay id act).ended = none := by
      obtain ⟨m, taunts, heq, -⟩ := b.resolveTargets_battle act.targeting id named
      rw [hs] at heq
      change b₁ = _ at heq
      rw [ended_pay, heq]
      exact hgoing
    obtain ⟨b₂, hchanges, hreport, rfl⟩ := carryOut?_eq_some hout
    obtain ⟨hsame, hexact⟩ :=
      @judge_exact (b₂.announce _) (hchanges.sameTurn.none_or_fled (.inl hpaid))
    exact ⟨hexact, hreport.trans hsame⟩

/-! ## Turns -/

theorem ended_countBoundary (b : Battle) (id : ActorId) :
    (b.countBoundary id).ended = b.ended := by
  obtain ⟨prevented, taunts, heq⟩ := b.countBoundary_eq id
  rw [heq]

theorem exact_passOn {b : Battle} (h : b.ended = none ∨ b.ended = some .fled)
    (hne : b.passOn.ended ≠ some .fled) : b.passOn.EndsExactly := by
  obtain ⟨-, hexact⟩ := judge_exact h
  unfold passOn at hne ⊢
  split at hne
  · next r b₁ hj =>
    rw [hj] at hexact
    exact hexact hne
  · next b₁ hj =>
    have hsame := b₁.sameSides_advance b₁.order.length
    rw [hj] at hexact
    rw [hsame.ended] at hne
    exact hsame.endsExactly (hexact hne)

theorem actingActor?_eq_some_iff {b : Battle} {id : ActorId} :
    b.actingActor? = some id ↔ b.ended = none ∧ b.currentActor? = some id := by
  unfold actingActor? isOver
  cases b.ended with
  | none => exact ⟨fun h => ⟨rfl, h⟩, fun h => h.2⟩
  | some r => exact iff_of_false nofun fun h => nomatch h.1

theorem exists_currentActor? {b : Battle} (hcur : b.current < b.order.length) :
    ∃ id, b.currentActor? = some id :=
  ⟨b.order[b.current], List.getElem?_eq_getElem hcur⟩

/-- A passed turn leaves a battle that has ended exactly. -/
theorem exact_of_passed {b b' : Battle} {rules : Rules} {id : ActorId}
    (hid : b.actingActor? = some id) (h : b.endTurn? rules = some b')
    (hne : b'.ended ≠ some .fled) : b'.EndsExactly := by
  have hgoing : b.ended = none := (actingActor?_eq_some_iff.1 hid).1
  obtain ⟨b₁, hticked, rfl, -⟩ := endTurn?_eq_some hid h
  refine exact_passOn ?_ hne
  rw [ended_countBoundary]
  exact (changes_ticked? hticked).sameTurn.none_or_fled (.inl hgoing)

/-- No call goes on with a battle that is over. -/
theorem Answers.ended {b b' : Battle} {rules : Rules} {content : Effect → Prop} {c : Call}
    (h : b.Answers rules content c b') {r : EndReason} (hr : b.ended = some r) :
    b'.ended = some r := by
  cases h with
  | refused => exact hr
  | played hgoing => cases hgoing.symm.trans hr
  | passed hid => cases (actingActor?_eq_some_iff.1 hid).1.symm.trans hr
  | judged =>
    rw [judge_of_ended hr]
    exact hr
  | idle => exact hr
  | resolved _ h =>
    rcases h.sameTurn.ended with heq | ⟨hnone, -⟩
    · exact heq.trans hr
    · cases hnone.symm.trans hr

/-! ## Runs -/

/-- Both sides have someone alive. -/
def Contested (b : Battle) : Prop :=
  (∃ id ∈ b.players, b.isAlive id = true) ∧ ∃ id ∈ b.enemies, b.isAlive id = true

/-- A call that conducts the turns does not leave a battle going on in which a side is down. -/
theorem contested_after? {b b' : Battle} {q : Request} (hq : q.call.conductsTurn = true)
    (hb : b.ended = none → b.Contested) (h : b.after? q = some b') (hgoing : b'.ended = none) :
    b'.Contested := by
  have hne : b'.ended ≠ some .fled := by
    rw [hgoing]
    exact nofun
  obtain ⟨rules, call⟩ := q
  cases call with
  | play act id named =>
    obtain ⟨⟨b₁, out⟩, hp, rfl⟩ := Option.map_eq_some_iff.1 h
    cases out with
    | error r =>
      obtain ⟨_, -, rfl⟩ | ⟨_, _, _, hout, -⟩ := perform?_cases hp
      · exact hb hgoing
      · cases hout
    | ok report => exact (((exact_of_played hp).1 hne).going.1 hgoing).symm
  | pass =>
    cases hid : b.actingActor? with
    | none =>
      simp only [after?, endTurn?, hid] at h
      cases h
      exact hb hgoing
    | some id => exact ((exact_of_passed hid h hne).going.1 hgoing).symm
  | choose id acts =>
    cases h
    exact hb hgoing
  | judge =>
    cases h
    cases hended : b.ended with
    | none => exact ((judge_of_going hended).2.going.1 hgoing).symm
    | some r =>
      -- what is over stays as it is
      rw [judge, hended] at hgoing
      rw [hended] at hgoing
      cases hgoing
  | _ => cases hq

/-- Nor does a run of such calls. -/
theorem contested_run {b b' : Battle} {qs : List Request}
    (hqs : ∀ q ∈ qs, q.call.conductsTurn = true) (hb : b.ended = none → b.Contested)
    (h : b.run? qs = some b') : b'.ended = none → b'.Contested := by
  induction qs generalizing b with
  | nil =>
    cases h
    exact hb
  | cons q qs ih =>
    obtain ⟨b₁, hq, hrest⟩ := Option.bind_eq_some_iff.1 h
    obtain ⟨hq', hqs'⟩ := List.forall_mem_cons.1 hqs
    exact ih hqs' (contested_after? hq' hb hq) hrest

/-- **After every played action and every passed turn a battle has ended exactly as its sides stand,
unless someone fled, and a played action reports how. So as long as turns are conducted in a battle
that begins with someone alive on both sides, it has someone alive on both sides while it goes
on. Turns can be passed and conducted unless something cannot be computed.** -/
theorem ends_exactly (b : Battle) :
    (∀ rules act id named b' report, b.perform? rules act id named = some (b', .ok report) →
        (b'.ended ≠ some .fled → b'.EndsExactly) ∧ report.outcome = b'.ended) ∧
      (b.Rostered → b.ended = none → ∀ rules,
        (∃ b', b.endTurn? rules = some b' ∧ (b'.ended ≠ some .fled → b'.EndsExactly)) ∨
          b.BreaksOff ⟨rules, .pass⟩) ∧
      (b.Contested → ∀ qs, (∀ q ∈ qs, q.call.conductsTurn = true) →
        (∃ b', b.run? qs = some b' ∧ (b'.ended = none → b'.Contested)) ∨ b.BreaksOffIn qs) := by
  refine ⟨fun rules act id named b' report h => exact_of_played h, fun hb hgoing rules => ?_,
    fun hb qs hqs => ?_⟩
  · obtain ⟨id, hid⟩ := exists_currentActor? hb.current
    refine (b.endTurn?_returns rules).imp_left fun ⟨b', h⟩ => ?_
    exact ⟨b', h, exact_of_passed (actingActor?_eq_some_iff.2 ⟨hgoing, hid⟩) h⟩
  · exact (b.run?_returns qs).imp_left fun ⟨b', h⟩ => ⟨b', h, contested_run hqs (fun _ => hb) h⟩

/-- A cut that no slime survives. -/
def finisher : Action := (Action.skill "cut" "Cut").withEffect (.trueDamage 20)

theorem fresh_duel : duel.Fresh := ⟨⟨7⟩, [hero], [slime], duel, ∅, rfl, rfl⟩

theorem rostered_duel : duel.Rostered := by
  have hcreate : create ⟨7⟩ [hero] [slime] = .ok duel := by rfl
  obtain ⟨henrolled, hcur⟩ := enrolled_create hcreate
  exact henrolled.rostered hcur

/-- The duel ends in victory by a cut, and goes on by a turn passed with both alive. -/
theorem duel_ends_exactly :
    (∃ b' report, duel.perform? {} finisher "hero" [] = some (b', .ok report) ∧
        b'.EndsExactly ∧ report.outcome = b'.ended ∧ b'.ended = some .victory) ∧
      (∃ b', duel.endTurn? {} = some b' ∧ b'.EndsExactly ∧ b'.ended = none) ∧
      ∃ b', duel.run? [⟨{}, .choose "hero" [finisher]⟩, ⟨{}, .pass⟩] = some b' ∧
        b'.ended = none ∧ b'.Contested := by
  obtain ⟨hplayed, hpassed, hrun⟩ := ends_exactly duel
  refine ⟨?_, ?_, ?_⟩
  · have hwon : (duel.perform? {} finisher "hero" []).map (fun r => (r.1.ended, r.2.isOk)) =
        some (some .victory, true) := by
      decide +kernel
    obtain ⟨⟨b', out⟩, hp, heq⟩ := Option.map_eq_some_iff.1 hwon
    obtain ⟨hended, hok⟩ := Prod.mk.inj heq
    cases out with
    | error r => cases hok
    | ok report =>
      obtain ⟨hexact, hreport⟩ := hplayed {} finisher "hero" [] b' report hp
      exact ⟨b', report, hp, hexact (by rw [hended]; exact nofun), hreport, hended⟩
  · have hgoing : (duel.endTurn? {}).map (·.ended) = some none := by decide +kernel
    obtain ⟨b', hpass, hexact⟩ :=
      (hpassed rostered_duel rfl {}).resolve_right (not_breaksOff (by decide +kernel))
    rw [hpass] at hgoing
    have hended : b'.ended = none := Option.some.inj hgoing
    exact ⟨b', hpass, hexact (by rw [hended]; exact nofun), hended⟩
  · have hboth : duel.Contested := ⟨⟨"hero", by decide⟩, ⟨"slime", by decide⟩⟩
    obtain ⟨b', hb', hcontested⟩ :=
      (hrun hboth [⟨{}, .choose "hero" [finisher]⟩, ⟨{}, .pass⟩]
        (by simp [Call.conductsTurn])).resolve_right (not_breaksOffIn (by decide +kernel))
    have hgoing : (duel.run? [⟨{}, .choose "hero" [finisher]⟩, ⟨{}, .pass⟩]).map (·.ended) =
        some none := by
      decide +kernel
    rw [hb'] at hgoing
    have hended : b'.ended = none := Option.some.inj hgoing
    exact ⟨b', hb', hended, hcontested hended⟩

end Battle

end Skirmish
