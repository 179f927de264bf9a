import Skirmish.Proofs.Calls

/-!
# How a call unfolds

Every call is put together from few pieces: a search for targets, the payment for an action, the
work of effects and hooks, the boundary that an actor passes and its count, the judgement of the
outcome and the passing of the turn. `Unfolds` says in what order, call by call, with the trace of
all deeds that are done in it, and `unfolds_of_after?` that there is nothing else.
-/

namespace Skirmish

namespace Battle

/-- How a call unfolds from a battle, by effects that are among some effects. -/
inductive Unfolds (rules : Rules) (content : Effect → Prop) (b : Battle) :
    Call → Trace → Battle → Prop
  /-- An action is refused. -/
  | refused {act : Action} {id : ActorId} {named : List ActorId} {r : Refusal}
      (h : b.perform? rules act id named = some (b.announce r.message, .error r)) :
      Unfolds rules content b (.play act id named) [] (b.announce r.message)
  /-- An action is played: its targets are looked for, it is paid for, its effects are resolved, a
  line says so, and the outcome is judged. -/
  | played {act : Action} {id : ActorId} {named targets : List ActorId} {report : Report}
      {b₁ b₂ : Battle} {tr : Trace} {flow : Flow} (hvalid : b.validate act id = .ok ())
      (haimed : b.resolveTargets act.targeting id named = (targets, b₁))
      (hworks : Works rules content (b₁.pay id act) tr flow b₂)
      (h : b.perform? rules act id named =
        some ((b₂.announce s!"{b₂.nameOf id} used {act.name}.").judge.2, .ok report)) :
      Unfolds rules content b (.play act id named) tr
        (b₂.announce s!"{b₂.nameOf id} used {act.name}.").judge.2
  /-- The turn is passed by an actor that is alive: it passes its boundary, which is counted, the
  outcome is judged, and the turn goes on. -/
  | passed {id : ActorId} {b₁ : Battle} {tr : Trace} {flow : Flow}
      (hid : b.actingActor? = some id) (halive : b.isAlive id = true)
      (hplay : b.play? rules (fun run => tick rules.codex run id) = some (b₁, flow))
      (hticks : Ticks rules content id b tr flow b₁) :
      Unfolds rules content b .pass tr (b₁.countBoundary id).passOn
  /-- The turn of an actor that is down is passed. -/
  | lapsed {id : ActorId} (hid : b.actingActor? = some id) (hdown : b.isAlive id = false) :
      Unfolds rules content b .pass [] (b.countBoundary id).passOn
  /-- There is no turn to pass. -/
  | idle (hid : b.actingActor? = none) : Unfolds rules content b .pass [] b
  /-- The outcome is judged. -/
  | judged : Unfolds rules content b .judge [] b.judge.2
  /-- An actor chooses. -/
  | chose {id : ActorId} {acts : List Action} :
      Unfolds rules content b (.choose id acts) [] (b.chooseAction id acts).2
  /-- Targets are looked for. -/
  | aimed {s : Selector} {id : ActorId} {named : List ActorId} :
      Unfolds rules content b (.aim s id named) [] (b.resolveTargets s id named).2
  /-- Effects, a status or hooks are resolved. -/
  | resolved {r : Resolution} {tr : Trace} {flow : Flow} {b' : Battle}
      (hr : ∀ id, r ≠ .boundary id) (hworks : Works rules content b tr flow b') :
      Unfolds rules content b (.resolve r) tr b'
  /-- An actor passes a boundary out of turn. -/
  | bounded {id : ActorId} {tr : Trace} {flow : Flow} {b' : Battle}
      (hplay : b.play? rules (fun run => tick rules.codex run id) = some (b', flow))
      (hticks : Ticks rules content id b tr flow b') :
      Unfolds rules content b (.resolve (.boundary id)) tr b'
  /-- Statuses are cleansed. -/
  | cleansed {id : ActorId} {tags : Option (List String)} :
      Unfolds rules content b (.cleanse id tags) [] (b.cleanse rules.codex id tags).2
  /-- Statuses are dispelled. -/
  | dispelled {id : ActorId} {status : Option String} :
      Unfolds rules content b (.dispel id status) [] (b.dispel rules.codex id status).2

variable {rules : Rules} {content : Effect → Prop} {b b' : Battle}

theorem unfolds_perform? {act : Action} {id : ActorId} {named : List ActorId}
    {out : Except Refusal Report} (hc : rules.codex.HooksWithin content)
    (hes : ∀ e ∈ act.effects, content e) (h : b.perform? rules act id named = some (b', out)) :
    ∃ tr, b.Unfolds rules content (.play act id named) tr b' := by
  rcases perform?_cases h with ⟨r, rfl, rfl⟩ | ⟨report, targets, b₁, rfl, hvalid, hs, -, hout⟩
  · exact ⟨[], .refused h⟩
  · obtain ⟨b₂, tr, flow, hworks, -, rfl⟩ := carryOut?_works hc hes hout
    exact ⟨tr, .played hvalid hs hworks h⟩

theorem unfolds_endTurn? (hc : rules.codex.HooksWithin content) (h : b.endTurn? rules = some b') :
    ∃ tr, b.Unfolds rules content .pass tr b' := by
  cases hid : b.actingActor? with
  | none =>
    simp only [endTurn?, hid] at h
    cases h
    exact ⟨[], .idle hid⟩
  | some id =>
    obtain ⟨b₁, hticked, rfl, -⟩ := endTurn?_eq_some hid h
    obtain ⟨halive, flow, hplay, tr, hticks⟩ | ⟨hdown, rfl⟩ := ticked?_cases hc hticked
    · exact ⟨tr, .passed hid halive hplay hticks⟩
    · exact ⟨[], .lapsed hid hdown⟩

/-- **Every call that returns unfolds in this way.** -/
theorem unfolds_of_after? {q : Request} (hq : q.Within content) (h : b.after? q = some b') :
    ∃ tr, b.Unfolds q.rules content q.call tr b' := by
  obtain ⟨rules, call⟩ := q
  obtain ⟨hc, hes⟩ := hq
  cases call with
  | play act id named =>
    obtain ⟨⟨b₁, out⟩, hp, rfl⟩ := Option.map_eq_some_iff.1 h
    exact unfolds_perform? hc hes hp
  | pass => exact unfolds_endTurn? hc h
  | resolve r =>
    obtain ⟨⟨b₁, flow⟩, hp, rfl⟩ := Option.map_eq_some_iff.1 h
    by_cases hr : ∃ id, r = .boundary id
    · obtain ⟨id, rfl⟩ := hr
      obtain ⟨tr, hticks⟩ := ticks_play? hc hp
      exact ⟨tr, .bounded hp hticks⟩
    · have hr' : ∀ id, r ≠ .boundary id := fun id heq => hr ⟨id, heq⟩
      obtain ⟨tr, hworks⟩ := works_play? hc (r.acts_step hes hr' _) hp
      exact ⟨tr, .resolved hr' hworks⟩
  | choose id acts =>
    cases h
    exact ⟨[], .chose⟩
  | judge =>
    cases h
    exact ⟨[], .judged⟩
  | aim s id named =>
    cases h
    exact ⟨[], .aimed⟩
  | cleanse id tags =>
    cases h
    exact ⟨[], .cleansed⟩
  | dispel id status =>
    cases h
    exact ⟨[], .dispelled⟩

end Battle

end Skirmish
