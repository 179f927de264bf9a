import Skirmish.Proofs.Boundaries
import Skirmish.Proofs.Evolution
import Skirmish.Proofs.Refusal
import Skirmish.Turn.Choice

/-!
# Runs of calls

Whoever conducts a battle does so by calls: it plays actions, passes the turn, lets an actor choose,
judges the outcome, looks for targets, resolves effects and statuses, and takes statuses away. A
`Request` is a call together with the rules that it is made under, and `Battle.run?` answers
requests one after the other, in whatever order they come.

Actions and passed turns are taken apart here: an action is refused or paid for and carried out
(`perform?_cases`), which is the work of its effects and of hooks, and whoever ends its turn alive
passes its boundary (`ticked?_cases`).
-/

namespace Skirmish

/-! ## Calls -/

/-- A resolution that a caller asks for. -/
inductive Resolution where
  | effect (e : Effect) (o : Origin) (user : ActorId) (targets : List ActorId)
  | status (id : ActorId) (status : String) (turns : Option Nat)
  | boundary (id : ActorId)
  | hook (c : HookCall)
  | damage (attacker victim : ActorId)

namespace Resolution

/-- The step that a resolution takes, given what runs the hooks. -/
def step (r : Resolution) (rules : Rules) (run : HookRunner) : Step :=
  match r with
  | .effect e o user targets => applyEffect rules run e o user targets
  | .status id st turns => applyStatus rules run id st turns
  | .boundary id => tick rules.codex run id
  | .hook c => run c
  | .damage attacker victim => onDamage run attacker victim

/-- The effects that a resolution itself applies; to apply a status is the effect that does so. -/
def effects : Resolution → List Effect
  | .effect e _ _ _ => [e]
  | .status _ st turns => [.applyStatus st turns]
  | _ => []

variable {rules : Rules} {content : Effect → Prop}

/-- What is no boundary resolves by acts. -/
theorem acts_step (r : Resolution) (hr : ∀ e ∈ r.effects, content e)
    (hb : ∀ id, r ≠ .boundary id) (s : Scene) :
    ResolvesBy rules content (Act rules content) s fun run => r.step rules run s := by
  cases r with
  | effect e o user targets =>
    exact resolves_applyEffect (hr e List.mem_cons_self) o user targets s
  | status id st turns => exact resolves_applyStatus (hr _ List.mem_cons_self) rfl rfl id s
  | boundary id => exact absurd rfl (hb id)
  | hook c => exact .hook s c
  | damage attacker victim => exact resolves_onDamage attacker victim s

theorem resolves_step (r : Resolution) (hr : ∀ e ∈ r.effects, content e) (s : Scene) :
    Resolves rules content s fun run => r.step rules run s := by
  by_cases hb : ∃ id, r = .boundary id
  · obtain ⟨id, rfl⟩ := hb
    exact resolves_tick id s
  · exact (r.acts_step hr (fun id h => hb ⟨id, h⟩) s).mono fun _ _ => Act.event

end Resolution

/-- A call to a battle. -/
inductive Call where
  | play (act : Action) (id : ActorId) (named : List ActorId)
  | pass
  | choose (id : ActorId) (acts : List Action)
  | judge
  | aim (s : Selector) (id : ActorId) (named : List ActorId)
  | resolve (r : Resolution)
  | cleanse (id : ActorId) (tags : Option (List String))
  | dispel (id : ActorId) (status : Option String)

/-- Whether a call conducts the turns: it plays, passes, chooses or has the outcome judged. -/
def Call.conductsTurn : Call → Bool
  | .play .. | .pass | .choose .. | .judge => true
  | _ => false

/-- The effects that a call itself applies. -/
def Call.effects : Call → List Effect
  | .play act _ _ => act.effects
  | .resolve r => r.effects
  | _ => []

/-- Whether a call stands aside from the turns: it chooses, looks for targets, resolves or takes
statuses away. -/
def Call.isAside : Call → Bool
  | .play .. | .pass | .judge => false
  | _ => true

/-- A call and the rules that it is made under. -/
structure Request where
  rules : Rules
  call : Call

/-- The effects that a request applies, its own and those of hooks, are among some effects. -/
structure Request.Within (q : Request) (content : Effect → Prop) : Prop where
  hooks : q.rules.codex.HooksWithin content
  own : ∀ e ∈ q.call.effects, content e

theorem Request.within_true (q : Request) : q.Within fun _ => True :=
  ⟨fun _ _ _ _ _ _ => trivial, fun _ _ => trivial⟩

namespace Battle

/-- The battle after a call. -/
def after? (b : Battle) (q : Request) : Option Battle :=
  match q.call with
  | .play act id named => (b.perform? q.rules act id named).map (·.1)
  | .pass => b.endTurn? q.rules
  | .choose id acts => some (b.chooseAction id acts).2
  | .judge => some b.judge.2
  | .aim s id named => some (b.resolveTargets s id named).2
  | .resolve r => (b.play? q.rules (r.step q.rules)).map (·.1)
  | .cleanse id tags => some (b.cleanse q.rules.codex id tags).2
  | .dispel id status => some (b.dispel q.rules.codex id status).2

/-- The battle after some calls, one after the other. -/
def run? (b : Battle) : List Request → Option Battle
  | [] => some b
  | q :: qs => (b.after? q).bind fun b => b.run? qs

/-! ## Actions and turns -/

variable {rules : Rules} {content : Effect → Prop} {b b' : Battle}

/-- What is played from a battle in which no hook runs is the work of effects and hooks. -/
theorem works_play? {step : HookRunner → Step} {flow : Flow}
    (hc : rules.codex.HooksWithin content)
    (hstep : ResolvesBy rules content (Act rules content) ⟨b, []⟩ fun run => step run ⟨b, []⟩)
    (h : b.play? rules step = some (b', flow)) : ∃ tr, Works rules content b tr flow b' := by
  obtain ⟨⟨s, flow'⟩, hs, heq⟩ := Option.map_eq_some_iff.1 h
  cases heq
  exact (hstep.works hc hs).2

theorem ticks_play? {id : ActorId} {flow : Flow} (hc : rules.codex.HooksWithin content)
    (h : b.play? rules (fun run => tick rules.codex run id) = some (b', flow)) :
    ∃ tr, Ticks rules content id b tr flow b' := by
  obtain ⟨⟨s, flow'⟩, hs, heq⟩ := Option.map_eq_some_iff.1 h
  cases heq
  exact ticks_of_tick hc hs

/-- An action that is carried out resolves its effects, says so and lets the outcome be judged. -/
theorem carryOut?_works {act : Action} {id : ActorId} {targets : List ActorId}
    {report : Report} (hc : rules.codex.HooksWithin content)
    (hes : ∀ e ∈ act.effects, content e)
    (h : b.carryOut? rules act id targets = some (b', report)) :
    ∃ b₁ tr flow, Works rules content b tr flow b₁ ∧
      report.outcome = (b₁.announce s!"{b₁.nameOf id} used {act.name}.").judge.1 ∧
      b' = (b₁.announce s!"{b₁.nameOf id} used {act.name}.").judge.2 := by
  obtain ⟨⟨b₁, flow⟩, hp, heq⟩ := Option.bind_eq_some_iff.1 h
  cases heq
  obtain ⟨tr, hworks⟩ := works_play? hc (resolves_playEffects hes _ _ _ _) hp
  exact ⟨b₁, tr, flow, hworks, rfl, rfl⟩

theorem carryOut?_eq_some {act : Action} {id : ActorId} {targets : List ActorId} {report : Report}
    (h : b.carryOut? rules act id targets = some (b', report)) :
    ∃ b₁, Changes rules (fun _ => True) b b₁ ∧
      report.outcome = (b₁.announce s!"{b₁.nameOf id} used {act.name}.").judge.1 ∧
      b' = (b₁.announce s!"{b₁.nameOf id} used {act.name}.").judge.2 := by
  obtain ⟨b₁, tr, flow, hworks, houtcome, heq⟩ :=
    carryOut?_works (fun _ _ _ _ _ _ => trivial) (fun _ _ => trivial) h
  exact ⟨b₁, hworks.traced.course.changes, houtcome, heq⟩

/-- An action is refused, or it has passed the checks and found targets, and is paid for and carried
out. -/
theorem perform?_cases {act : Action} {id : ActorId} {named : List ActorId}
    {out : Except Refusal Report} (h : b.perform? rules act id named = some (b', out)) :
    (∃ r, out = .error r ∧ b' = b.announce r.message) ∨
      ∃ report targets b₁, out = .ok report ∧ b.validate act id = .ok () ∧
        b.resolveTargets act.targeting id named = (targets, b₁) ∧ targets ≠ [] ∧
        (b₁.pay id act).carryOut? rules act id targets = some (b', report) := by
  unfold perform? at h
  split at h
  · next r _ =>
    cases h
    exact .inl ⟨r, rfl, rfl⟩
  · next hv =>
    split at h
    · next searched hs =>
      cases h
      rw [restore_resolveTargets hs]
      exact .inl ⟨_, rfl, rfl⟩
    · next targets b₁ hne hs =>
      obtain ⟨⟨b₂, report⟩, hout, heq⟩ := Option.map_eq_some_iff.1 h
      cases heq
      exact .inr ⟨report, targets, b₁, rfl, hv, hs, fun hnil => hne (by rw [hnil]), hout⟩

/-- The battle once the statuses of an actor have passed the boundary of its turn. -/
def ticked? (b : Battle) (rules : Rules) (id : ActorId) : Option Battle :=
  if b.isAlive id then (b.play? rules fun run => tick rules.codex run id).map (·.1) else some b

theorem endTurn?_of_acting {id : ActorId} (hid : b.actingActor? = some id) :
    b.endTurn? rules = (b.ticked? rules id).bind fun b => b.passed? id := by
  unfold endTurn?
  rw [hid]
  rfl

theorem passed?_eq_some {id : ActorId} (h : b.passed? id = some b') :
    b' = (b.countBoundary id).passOn ∧ b'.isCounted = true := by
  unfold passed? at h
  dsimp only at h
  split at h
  · next hcounted =>
    cases h
    exact ⟨rfl, hcounted⟩
  · cases h

/-- The boundary of the acting actor is counted, and the turn passes on. -/
theorem endTurn?_eq_some {id : ActorId} (hid : b.actingActor? = some id)
    (h : b.endTurn? rules = some b') :
    ∃ b₁, b.ticked? rules id = some b₁ ∧ b' = (b₁.countBoundary id).passOn ∧
      b'.isCounted = true := by
  rw [endTurn?_of_acting hid] at h
  obtain ⟨b₁, hticked, hpassed⟩ := Option.bind_eq_some_iff.1 h
  exact ⟨b₁, hticked, passed?_eq_some hpassed⟩

/-- Whoever is alive passes the boundary, and no one else does. -/
theorem ticked?_cases {id : ActorId} (hc : rules.codex.HooksWithin content)
    (h : b.ticked? rules id = some b') :
    (b.isAlive id = true ∧ ∃ flow, b.play? rules (fun run => tick rules.codex run id) =
        some (b', flow) ∧ ∃ tr, Ticks rules content id b tr flow b') ∨
      b.isAlive id = false ∧ b' = b := by
  unfold ticked? at h
  split at h
  · next halive =>
    obtain ⟨⟨b₁, flow⟩, hp, rfl⟩ := Option.map_eq_some_iff.1 h
    exact .inl ⟨halive, flow, hp, ticks_play? hc hp⟩
  · next hdown =>
    cases h
    exact .inr ⟨Bool.eq_false_iff.2 hdown, rfl⟩

theorem changes_ticked? {id : ActorId} (h : b.ticked? rules id = some b') :
    Changes rules (fun _ => True) b b' := by
  obtain ⟨-, flow, -, tr, hticks⟩ | ⟨-, rfl⟩ := ticked?_cases (fun _ _ _ _ _ _ => trivial) h
  · exact hticks.traced.course.changes
  · exact .refl

/-- Rules under which imps can be summoned. -/
def impRules : Rules where
  codex := { enemies := Table.empty.insert "imp" fun level =>
    { id := "imp", name := "Imp", stats := { hp := 5, maxHp := 5, level := level } } }

end Battle

end Skirmish
