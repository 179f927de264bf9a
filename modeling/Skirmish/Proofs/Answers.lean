import Skirmish.Proofs.Unfolding

/-!
# What a call does

Where it does not matter what was done in a call and in what order, but only what it can change, its
trace is no more than changes in a row. `Answers` tells a call in this way: the changes of
resolution, the payment for an action, the count of a boundary, the judgement of the outcome and the
passing of the turn, and `answers_of_after?` says that there is nothing else. So what these pieces
keep, every call keeps, and what each of them does, a call does as often as it has the piece.

The changes come from the effects that a call applies itself and from those of the hooks of its
rules (`Request.Within`), so that an answer also tells which effects it may be due to.

The first thing that follows is that every call lets the battle evolve, so a property of battles
that every shift of the cast keeps is kept by every run (`run_induction`).
-/

namespace Skirmish

namespace Battle

/-! ## The pieces -/

theorem rewardAll_eq (b : Battle) (xp gold : Int) (ids : List ActorId) :
    ∃ actors, b.rewardAll xp gold ids = { b with actors := actors } := by
  refine rewardAll_induction (P := fun c => ∃ actors, c = { b with actors := actors })
    ⟨b.actors, rfl⟩ ?_ ?_
  · rintro _ id - ⟨actors, rfl⟩
    exact ⟨_, rfl⟩
  · rintro _ id - ⟨actors, rfl⟩
    exact ⟨_, rfl⟩

theorem grantRewards_eq (b : Battle) :
    ∃ actors line, b.grantRewards = { b with actors := actors, log := b.log ++ [line] } := by
  obtain ⟨actors, heq⟩ :=
    b.rewardAll_eq (b.spoils (·.xp)) (b.spoils (·.gold)) (b.living .player)
  unfold grantRewards
  dsimp only
  rw [heq]
  exact ⟨actors, _, rfl⟩

/-- Judging the outcome can end the battle, reward its actors and say so. -/
theorem judge_eq (b : Battle) :
    ∃ ended actors lines,
      b.judge.2 = { b with ended := ended, actors := actors, log := b.log ++ lines } := by
  have hnothing : ∃ ended actors lines,
      b = { b with ended := ended, actors := actors, log := b.log ++ lines } :=
    ⟨b.ended, b.actors, [], by rw [List.append_nil]⟩
  unfold judge
  split
  · exact hnothing
  · split
    · exact hnothing
    · obtain ⟨actors, line, heq⟩ := (b.finish .victory).grantRewards_eq
      exact ⟨(b.finish .victory).ended, actors, [line], heq⟩
    · exact ⟨(b.finish .defeat).ended, b.actors, ["Defeat..."], rfl⟩
    · exact ⟨(b.finish .fled).ended, b.actors, [], by rw [List.append_nil]; rfl⟩

/-- Passing the turn on can end the battle as judging it does; else it changes the place, the round
and the log. -/
theorem passOn_eq (b : Battle) :
    ∃ round current ended actors log, b.passOn = { b with
      round := round, current := current, ended := ended, actors := actors, log := log } := by
  obtain ⟨ended, actors, lines, hjudged⟩ := b.judge_eq
  unfold passOn
  split
  · next b₁ heq =>
    rw [heq] at hjudged
    exact ⟨b.round, b.current, ended, actors, b.log ++ lines, hjudged⟩
  · next b₁ heq =>
    rw [heq] at hjudged
    obtain ⟨round, current, log, hadvanced, -⟩ := b₁.advance_spec b₁.order.length
    obtain rfl : b₁ = _ := hjudged
    exact ⟨round, current, ended, actors, log, hadvanced⟩

/-! ## The boundaries counted -/

theorem boundaries_pay (b : Battle) (id : ActorId) (act : Action) :
    (b.pay id act).boundaries = b.boundaries := by
  obtain ⟨cooldowns, charges, inventory, heq⟩ := b.pay_eq id act
  rw [heq]
  rfl

theorem boundaries_judge (b : Battle) : b.judge.2.boundaries = b.boundaries := by
  obtain ⟨ended, actors, lines, heq⟩ := b.judge_eq
  rw [heq]

theorem boundaries_countBoundary (b : Battle) (id : ActorId) :
    (b.countBoundary id).boundaries = b.boundaries + 1 := by
  obtain ⟨prevented, taunts, heq⟩ := b.countBoundary_eq id
  rw [heq]

theorem boundaries_passOn (b : Battle) : b.passOn.boundaries = b.boundaries := by
  obtain ⟨round, current, ended, actors, log, heq⟩ := b.passOn_eq
  rw [heq]

/-! ## The answers -/

/-- What a call makes of a battle, by effects that are among some effects. -/
inductive Answers (rules : Rules) (content : Effect → Prop) (b : Battle) : Call → Battle → Prop
  /-- An action is refused. -/
  | refused {act : Action} {id : ActorId} {named : List ActorId} {r : Refusal}
      (h : b.perform? rules act id named = some (b.announce r.message, .error r)) :
      Answers rules content b (.play act id named) (b.announce r.message)
  /-- An action is played: its targets are looked for, it is paid for, its effects are resolved, and
  the outcome is judged. -/
  | played {act : Action} {id : ActorId} {named targets : List ActorId} {report : Report}
      {b₁ b₂ : Battle} (hgoing : b.ended = none)
      (haimed : b.resolveTargets act.targeting id named = (targets, b₁))
      (hresolved : Changes rules content (b₁.pay id act) b₂)
      (h : b.perform? rules act id named = some (b₂.judge.2, .ok report)) :
      Answers rules content b (.play act id named) b₂.judge.2
  /-- The turn is passed: the statuses of the acting actor pass the boundary, it is counted, the
  outcome is judged, and the turn goes on. -/
  | passed {id : ActorId} {b₁ : Battle} (hid : b.actingActor? = some id)
      (hticked : Changes rules content b b₁) :
      Answers rules content b .pass (b₁.countBoundary id).passOn
  /-- There is no turn to pass. -/
  | idle (hid : b.actingActor? = none) : Answers rules content b .pass b
  /-- The outcome is judged. -/
  | judged : Answers rules content b .judge b.judge.2
  /-- Nothing but resolution happens. -/
  | resolved {c : Call} {b' : Battle} (hc : c.isAside = true)
      (h : Changes rules content b b') : Answers rules content b c b'

variable {rules : Rules} {content : Effect → Prop} {b b' : Battle}

theorem changes_of_resolveTargets {s : Selector} {id : ActorId} {named targets : List ActorId}
    (h : b.resolveTargets s id named = (targets, b')) : Changes rules content b b' := by
  have haimed : Changes rules content b _ := b.changes_resolveTargets s id named
  rwa [h] at haimed

/-- A choice makes one draw or none. -/
theorem chooseAction_seed (b : Battle) (id : ActorId) (acts : List Action) :
    ∃ m, (b.chooseAction id acts).2 = { b with seed := b.seed.advance m } := by
  unfold chooseAction Seed.weighted
  dsimp only
  split
  · exact ⟨0, rfl⟩
  · exact ⟨1, rfl⟩

/-- However a call unfolds, it is answered by these pieces. -/
theorem Unfolds.answers {c : Call} {tr : Trace} (h : b.Unfolds rules content c tr b') :
    b.Answers rules content c b' := by
  cases h with
  | refused h => exact .refused h
  | played hvalid haimed hworks h =>
    obtain ⟨a, ha⟩ := checkActor_of_validate hvalid
    exact .played (checkActor_eq_ok_iff.1 ha).1 haimed
      (hworks.traced.course.changes.trans (changes_announce ..)) h
  | passed hid _ _ hticks => exact .passed hid hticks.traced.course.changes
  | lapsed hid => exact .passed hid .refl
  | idle hid => exact .idle hid
  | judged => exact .judged
  | @chose id acts =>
    obtain ⟨m, heq⟩ := b.chooseAction_seed id acts
    rw [heq]
    exact .resolved rfl (b.changes_advance m)
  | aimed => exact .resolved rfl (b.changes_resolveTargets ..)
  | resolved _ hworks => exact .resolved rfl hworks.traced.course.changes
  | bounded _ hticks => exact .resolved rfl hticks.traced.course.changes
  | cleansed => exact .resolved rfl (b.changes_cleanse ..)
  | dispelled => exact .resolved rfl (b.changes_dispel ..)

/-- **Every call that returns is answered by these pieces.** -/
theorem answers_of_after? {q : Request} (hq : q.Within content) (h : b.after? q = some b') :
    b.Answers q.rules content q.call b' := by
  obtain ⟨tr, hunfolds⟩ := unfolds_of_after? hq h
  exact hunfolds.answers

/-! ## The cast -/

theorem evolves_passOn (b : Battle) : b.Evolves rules.codex b.passOn := by
  have hjudged := b.sameCast_judge
  unfold passOn
  split
  · next b₁ hj =>
    rw [hj] at hjudged
    exact hjudged.evolves
  · next b₁ hj =>
    rw [hj] at hjudged
    exact hjudged.evolves.tail .passed

theorem Answers.evolves {c : Call} (h : b.Answers rules content c b') :
    b.Evolves rules.codex b' := by
  cases h with
  | @refused _ _ _ r => exact (b.sameCast_announce r.message).evolves
  | @played act id _ _ _ b₁ b₂ _ haimed hresolved _ =>
    have hsearched : Changes rules content b b₁ := changes_of_resolveTargets haimed
    exact ((hsearched.evolves.trans (b₁.sameCast_pay id act).evolves).trans
      hresolved.evolves).trans b₂.sameCast_judge.evolves
  | @passed id b₁ _ hticked =>
    exact (hticked.evolves.trans (b₁.sameCast_countBoundary id).evolves).trans (evolves_passOn _)
  | idle => exact .refl
  | judged => exact b.sameCast_judge.evolves
  | resolved _ h => exact h.evolves

/-- Every call that returns lets the battle evolve. -/
theorem evolves_after? {q : Request} (h : b.after? q = some b') : b.Evolves q.rules.codex b' :=
  (answers_of_after? q.within_true h).evolves

/-- **What every shift of the cast keeps, every run of calls keeps.** -/
theorem run_induction {P : Battle → Prop} {qs : List Request}
    (hstep : ∀ q ∈ qs, ∀ b b', P b → b.Shifts q.rules.codex b' → P b')
    (h : b.run? qs = some b') (hb : P b) : P b' := by
  induction qs generalizing b with
  | nil =>
    cases h
    exact hb
  | cons q qs ih =>
    obtain ⟨b₁, hq, hqs⟩ := Option.bind_eq_some_iff.1 h
    have hb₁ : P b₁ := (evolves_after? hq).induction (hstep q List.mem_cons_self) hb
    exact ih (fun q' hq' => hstep q' (List.mem_cons_of_mem _ hq')) hqs hb₁

end Battle

end Skirmish
