import Skirmish.Battle.Outcome
import Skirmish.Resolution.Hooks

/-!
# Playing an action

An actor plays an action in its turn. The first check that fails refuses it, and then nothing but a
line of the log changes: a search for targets that finds none is undone. Otherwise the action is
paid for, its effects are applied until one of them ends the battle, and the outcome is judged.
-/

namespace Skirmish

/-- What an action did: its targets, and why the battle ended if it did. -/
structure Report where
  action : String
  targets : List ActorId
  outcome : Option EndReason
deriving DecidableEq, Inhabited

namespace Battle

/-! ## Checks -/

/-- Check whether an actor can act now. -/
def checkActor (b : Battle) (id : ActorId) : Except Refusal Actor := do
  if b.isOver then throw .battleOver
  let some a := b.actor? id | throw (.unknownActor id)
  if !a.alive then throw (.fainted a.name)
  if b.currentActor? != some id then throw (.notYourTurn a.name)
  if b.isPrevented id then throw (.prevented a.name)
  return a

/-- Check whether an actor can pay for an action. -/
def checkCosts (a : Actor) (act : Action) : Except Refusal Unit := do
  if a.stats.sta < act.costs.sta then throw (.notEnoughSta act.name act.costs.sta a.stats.sta)
  if a.stats.mp < act.costs.mp then throw (.notEnoughMp act.name act.costs.mp a.stats.mp)

/-- The uses that an actor has left of an action, if they are limited. -/
def usesLeft? (b : Battle) (id : ActorId) (act : Action) : Option Nat :=
  act.charges.map fun max => ((b.chargesOf? id act.id).map (·.remaining)).getD max

/-- Check what the battle keeps of earlier uses and of the inventory. -/
def checkStores (b : Battle) (id : ActorId) (act : Action) : Except Refusal Unit := do
  if 0 < b.cooldown id act.id then throw (.onCooldown act.name (b.cooldown id act.id))
  if b.usesLeft? id act == some 0 then throw (.noCharges act.name)
  if act.inventoryItem?.any fun item => b.itemCount item == 0 then throw (.notInInventory act.name)

/-- Check everything but the targets of an action. -/
def validate (b : Battle) (act : Action) (id : ActorId) : Except Refusal Unit := do
  let a ← b.checkActor id
  if !Filter.permits act.canUse a then throw (.canUseBlocked act.name)
  checkCosts a act
  b.checkStores id act

/-! ## Payment -/

/-- Take the costs of an action from the actor. -/
def payCosts (b : Battle) (id : ActorId) (c : Costs) : Battle :=
  b.modifyActor id fun a => { a with stats := (a.stats.add .sta (-c.sta)).add .mp (-c.mp) }

/-- Begin the cooldown of an action, if it has one. -/
def beginCooldown (b : Battle) (id : ActorId) (act : Action) : Battle :=
  if act.cooldown = 0 then b
  else
    let row := (b.cooldowns.get? id).getD ∅
    { b with cooldowns := b.cooldowns.insert id (row.insert act.id act.cooldown) }

/-- Spend one charge of an action, if they are limited. -/
def spendCharge (b : Battle) (id : ActorId) (act : Action) : Battle :=
  match act.charges with
  | none => b
  | some max =>
    let row := (b.charges.get? id).getD ∅
    let c := (row.get? act.id).getD ⟨max, max⟩
    { b with
      charges := b.charges.insert id (row.insert act.id { c with remaining := c.remaining - 1 }) }

/-- Take one unit from the inventory, if the action uses it up. -/
def spendItem (b : Battle) (act : Action) : Battle :=
  if act.consumesItem then b.withItem act.id (b.itemCount act.id - 1) else b

/-- Pay for an action. -/
def pay (b : Battle) (id : ActorId) (act : Action) : Battle :=
  (((b.payCosts id act.costs).beginCooldown id act).spendCharge id act).spendItem act

/-! ## Playing -/

/-- Refuse an action, which only the log shows. -/
def refuse (b : Battle) (r : Refusal) : Battle × Except Refusal Report :=
  (b.announce r.message, .error r)

/-- Apply the effects of an action that is paid for and judge the outcome. -/
def carryOut? (b : Battle) (rules : Rules) (act : Action) (id : ActorId) (targets : List ActorId) :
    Option (Battle × Report) := do
  let (b, _) ← b.play? rules fun run =>
    playEffects rules run { element := act.element } id targets act.effects
  let (outcome, b) := (b.announce s!"{b.nameOf id} used {act.name}.").judge
  return (b, ⟨act.id, targets, outcome⟩)

/-- Undo a search for targets: its draws, and that it dropped the taunt of the acting actor. -/
def restore (b : Battle) (id : ActorId) (seed : Seed) (taunt : Option Taunt) : Battle :=
  { b with seed := seed, taunts := taunt.elim b.taunts (b.taunts.insert id) }

/-- Play an action, at the targets that the caller names or that the action selects. -/
def perform? (b : Battle) (rules : Rules) (act : Action) (id : ActorId) (named : List ActorId) :
    Option (Battle × Except Refusal Report) :=
  match b.validate act id with
  | .error r => some (b.refuse r)
  | .ok () =>
    match b.resolveTargets act.targeting id named with
    | ([], searched) =>
      some ((searched.restore id b.seed (b.taunts.get? id)).refuse (.noValidTarget act.name))
    | (targets, b) =>
      ((b.pay id act).carryOut? rules act id targets).map fun (b, report) => (b, .ok report)

end Battle

end Skirmish
