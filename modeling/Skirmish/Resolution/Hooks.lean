import Skirmish.Battle.Targets
import Skirmish.Resolution.Afflict
import Skirmish.Resolution.Strike
import Skirmish.Resolution.Supply

/-!
# Effects and the hooks that answer them

`applyEffect` applies one effect to its targets, given what runs the hooks that answer it. A hook
runs while its holder is alive and while the same hook of the same status and holder does not run
already; its effects are applied like all others, so hooks run within hooks.

`runHook` ties the knot up to a depth. As every hook that runs belongs to an actor and a registered
status, and no two are the same, `Battle.hookDepth` is a depth that they cannot exceed.
-/

namespace Skirmish

/-! ## Effects -/

section

variable (rules : Rules) (run : HookRunner)

/-- Run a hook of every status that an actor holds now, because of someone else. -/
def answerDamage (holder : ActorId) (hook : Hook) (other : ActorId) : Step := fun s =>
  Step.each (fun i => run ⟨holder, i.status, hook, some other, i.stackCount⟩)
    (s.battle.afflictionsOf holder) s

/-- Run the hooks that answer damage, the attacker's before the victim's. -/
def onDamage (attacker victim : ActorId) : Step :=
  (answerDamage run attacker .onDealDamage victim).andThen
    (answerDamage run victim .onTakeDamage attacker)

/-- Apply a status to an actor and run the hook that answers it. -/
def applyStatus (id : ActorId) (status : String) (turns : Option Nat) : Step := fun s =>
  match rules.codex.status? status with
  | none => some (s, .proceed)
  | some st =>
    match s.battle.afflicted? rules.codex id st turns with
    | none => none
    | some (b, none) => some ({ s with battle := b }, .proceed)
    | some (b, some count) => run ⟨id, status, .onApply, none, count⟩ { s with battle := b }

/-- Whether an effect reaches a target: one that is alive, or down if it is to be revived, and that
passes the filter of the effect. -/
def Battle.isReached (b : Battle) (e : Effect) (id : ActorId) : Bool :=
  (b.actor? id).any fun a => (a.alive || e.kind == .revive) && Filter.permits e.onlyIf a

/-- Apply an effect to its targets one after the other, with the rolls so far. -/
def applyToEach (e : Effect) (o : Origin) (user : ActorId) : List ActorId → Rolls → Step
  | [], _ => Step.done
  | id :: ids, rolls => fun s =>
    if s.battle.isReached e id then
      match e.kind with
      | .damage =>
        match s.battle.struck? rules e o user id rolls with
        | none => none
        | some (b, rolls, landed) =>
          (if landed then onDamage run user id else Step.done).andThen
            (applyToEach e o user ids rolls) { s with battle := b }
      | .applyStatus =>
        (e.statusId.elim Step.done fun st => applyStatus rules run id st e.statusTurns).andThen
          (applyToEach e o user ids rolls) s
      | _ =>
        applyToEach e o user ids rolls
          { s with battle := s.battle.applyImmediate rules e o user id }
    else applyToEach e o user ids rolls s

/-- Apply an effect of a user; nothing happens once the battle is over. -/
def applyEffect (e : Effect) (o : Origin) (user : ActorId) (targets : List ActorId) : Step :=
  fun s =>
    if s.battle.isOver then some (s, .halt)
    else if e.kind.isTargetless then
      (s.battle.supplied? rules e o user).map fun (b, flow) => ({ s with battle := b }, flow)
    else applyToEach rules run e o user targets ⟨e.sharedRoll, none, none⟩ s

/-- Apply an effect to the targets that it selects, or else to given ones. -/
def playEffect (o : Origin) (user : ActorId) (targets : List ActorId) (e : Effect) : Step :=
  fun s =>
    match e.selector with
    | none => applyEffect rules run e o user targets s
    | some selector =>
      let (ids, b) := s.battle.resolveTargets selector user []
      applyEffect rules run e o user ids { s with battle := b }

/-- Apply some effects one after the other. -/
def playEffects (o : Origin) (user : ActorId) (targets : List ActorId) (es : List Effect) : Step :=
  Step.each (playEffect rules run o user targets) es

end

/-! ## Hooks -/

/-- The effects that a call of a hook runs now: none if the status is not registered, if the holder
is down or if the hook is running. -/
def HookCall.effects (c : HookCall) (codex : Codex) (s : Scene) : List Effect :=
  if s.battle.isAlive c.holder && !s.running.contains c.frame then
    (codex.status? c.status).elim [] fun st => st.hooked c.hook
  else []

/-- Where the effects of a hook come from; each stack counts where the stacking rule says so. -/
def HookCall.origin (c : HookCall) (codex : Codex) : Origin :=
  if (codex.status? c.status).any fun st => st.stacking == .magnitude then
    { scale := Float.ofNat (max c.stackCount 1) }
  else {}

/-- Run a hook, and hooks within it to a depth. -/
def runHook (rules : Rules) : Nat → HookRunner
  | 0, c => fun s => if (c.effects rules.codex s).isEmpty then some (s, .proceed) else none
  | depth + 1, c => fun s =>
    if (c.effects rules.codex s).isEmpty then some (s, .proceed)
    else
      Step.within c.frame
        (playEffects rules (runHook rules depth) (c.origin rules.codex) c.holder
          [c.defaultTarget] (c.effects rules.codex s)) s

/-- A depth that hooks within hooks do not exceed: as many as there are hooks of the registered
statuses on the actors of the battle and on those that can still be summoned. -/
def Battle.hookDepth (b : Battle) (codex : Codex) : Nat :=
  Hook.all.length * codex.statuses.size * (b.actors.size + (greatestCount - b.spawned))

/-- Take a step from a battle in which no hook runs. -/
def Battle.play? (b : Battle) (rules : Rules) (step : HookRunner → Step) : Option (Battle × Flow) :=
  (step (runHook rules (b.hookDepth rules.codex)) ⟨b, []⟩).map fun (s, flow) => (s.battle, flow)

end Skirmish
