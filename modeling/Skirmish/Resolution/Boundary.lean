import Skirmish.Resolution.Hooks

/-!
# The boundary of a turn

When the turn of an actor ends, the statuses that it holds run their first hook, lose one turn and
run their second hook. Those without a turn left are then taken away; each says so, loses its shield
and runs its last hook.
-/

namespace Skirmish

namespace Battle

/-- Take one turn from the afflictions of some statuses. -/
def countDown (b : Battle) (id : ActorId) (statuses : List String) : Battle :=
  b.modifyActor id fun a =>
    { a with afflictions := a.afflictions.map fun i =>
        if statuses.contains i.status then { i with remaining := i.remaining - 1 } else i }

/-- Take away the afflictions without a turn left. -/
def dropExpired (b : Battle) (id : ActorId) : Battle :=
  b.modifyActor id fun a =>
    { a with afflictions := a.afflictions.filter fun i => i.remaining != 0 }

/-- The afflictions without a turn left. -/
def expired (b : Battle) (id : ActorId) : List Affliction :=
  (b.afflictionsOf id).filter fun i => i.remaining == 0

/-- Say that a status is over and take its shield away. -/
def wearOff (b : Battle) (codex : Codex) (id : ActorId) (status : String) : Battle :=
  (b.removeGranted codex id status).announce
    s!"{b.nameOf id}'s {codex.statusName status} wore off."

end Battle

section

variable (codex : Codex) (run : HookRunner)

/-- Run a hook of some statuses, of those that the actor still holds when their turn comes. -/
def runHeld (holder : ActorId) (hook : Hook) (statuses : List String) : Step :=
  Step.each
    (fun status s =>
      match (s.battle.actor? holder).bind (·.affliction? status) with
      | none => some (s, .proceed)
      | some i => run ⟨holder, status, hook, none, i.stackCount⟩ s)
    statuses

/-- Take the afflictions away that are over and run their last hooks. -/
def expire (holder : ActorId) : Step := fun s =>
  Step.each
    (fun i => (Step.change fun b => b.wearOff codex holder i.status).andThen
      (run ⟨holder, i.status, .onExpire, none, i.stackCount⟩))
    (s.battle.expired holder) { s with battle := s.battle.dropExpired holder }

/-- Run the boundary of a turn for the actor whose turn ends. -/
def tick (holder : ActorId) : Step := fun s =>
  match (s.battle.afflictionsOf holder).map (·.status) with
  | [] => some (s, .proceed)
  | statuses =>
    ((runHeld run holder .onTurnStart statuses).andThen <|
      (Step.change fun b => b.countDown holder statuses).andThen <|
      (runHeld run holder .onTurnEnd statuses).andThen <|
      expire codex run holder) s

end

end Skirmish
