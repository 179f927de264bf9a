import Skirmish.Text.Quoted
import Skirmish.Actor.Basic

/-!
# Faults and refusals

A `Fault` is a mistake in what a battle is built from. A `Refusal` is an ordinary answer of the game
to an action that cannot be done now; its message is also the line that the log shows.
-/

namespace Skirmish

/-- The kinds of definitions that a battle reads. -/
inductive DefinitionKind where
  | skill
  | item
  | status
  | enemy
deriving DecidableEq, Inhabited

/-- The name of a kind of definition. -/
def DefinitionKind.label : DefinitionKind → String
  | skill => "skill"
  | item => "item"
  | status => "status"
  | enemy => "enemy"

/-- A mistake in what a battle is built from. -/
inductive Fault where
  | duplicateDefinition (kind : DefinitionKind) (id : String)
  | duplicateActor (id : ActorId)
  | emptySide
  | snapshot
deriving DecidableEq, Inhabited

/-- The text of a fault. -/
def Fault.message : Fault → String
  | duplicateDefinition kind id =>
    s!"{kind.label} with id {Text.quoted id} is already registered"
  | duplicateActor id => s!"actor id {id} appears more than once in the battle"
  | emptySide => "battle needs at least one actor on each side"
  | snapshot => "snapshot encoding failed"

/-- Why an action cannot be done now. -/
inductive Refusal where
  | battleOver
  | unknownActor (id : ActorId)
  | fainted (actor : String)
  | notYourTurn (actor : String)
  | prevented (actor : String)
  | canUseBlocked (action : String)
  | notEnoughSta (action : String) (needed available : Int)
  | notEnoughMp (action : String) (needed available : Int)
  | onCooldown (action : String) (turns : Nat)
  | noCharges (action : String)
  | notInInventory (item : String)
  | noValidTarget (action : String)
deriving DecidableEq, Inhabited

/-- The text of a refusal. -/
def Refusal.message : Refusal → String
  | battleOver => "The battle is already over"
  | unknownActor id => s!"Unknown actor {id}"
  | fainted actor => s!"{actor} has fainted and cannot act"
  | notYourTurn actor => s!"It is not {actor}'s turn"
  | prevented actor => s!"{actor} is unable to act this turn"
  | canUseBlocked action => s!"{action} cannot be used right now"
  | notEnoughSta action needed available =>
    s!"Not enough STA for {action} (need {needed}, have {available})"
  | notEnoughMp action needed available =>
    s!"Not enough MP for {action} (need {needed}, have {available})"
  | onCooldown action turns => s!"{action} is on cooldown ({turns} turns left)"
  | noCharges action => s!"{action} has no charges left"
  | notInInventory item => s!"No {item} left in the inventory"
  | noValidTarget action => s!"No valid target for {action}"

end Skirmish
