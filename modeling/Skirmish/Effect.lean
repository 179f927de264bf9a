import Skirmish.Magnitude
import Skirmish.Selector

/-!
# Effects

An effect is one outcome of an action or of a status. Its kind says what happens; the other fields
say how much, to what and to whom, and each kind reads those that concern it.
-/

namespace Skirmish

/-- What an effect does. -/
inductive EffectKind where
  | damage
  | heal
  | resource
  | applyStatus
  | cleanseStatus
  | dispel
  | modifyStat
  | shield
  | taunt
  | flee
  | revive
  | summon
  | giveItem
  | removeItem
  | preventAction
deriving DecidableEq, Inhabited

/-- Whether an effect happens once for its user and not once for each target. -/
def EffectKind.isTargetless : EffectKind → Bool
  | flee | summon | giveItem | removeItem => true
  | _ => false

/-- One outcome of an action or of a status. -/
structure Effect where
  kind : EffectKind
  value : Magnitude := {}
  resource : Option Resource := none
  stat : Option StatKind := none
  statusId : Option String := none
  statusTurns : Option Nat := none
  cleanseTags : Option (List String) := none
  shieldId : Option String := none
  element : Option String := none
  summonId : Option String := none
  itemId : Option String := none
  selector : Option Selector := none
  onlyIf : Option Filter := none
  canMiss : Bool := true
  canCrit : Bool := true
  sharedRoll : Bool := false
deriving Inhabited

namespace Effect

/-- The resource whose maximum a fraction is taken of. -/
def basis (e : Effect) : Resource :=
  match e.kind with
  | .heal | .resource | .revive => e.resource.getD .hp
  | _ => .hp

/-! ## Kinds with their fields -/

/-- Damage of a fixed amount. -/
def damage (amount : Float) : Effect := { kind := .damage, value := .flat amount }

/-- Damage of a fixed amount that neither misses nor is critical. -/
def trueDamage (amount : Float) : Effect :=
  { damage amount with canMiss := false, canCrit := false }

/-- Healing of a fixed amount. -/
def heal (amount : Float) : Effect := { kind := .heal, value := .flat amount }

/-- A signed change of a resource. -/
def changeOf (r : Resource) (amount : Float) : Effect :=
  { kind := .resource, value := .flat amount, resource := some r }

/-- Apply a status, for its own duration or another one. -/
def applyStatus (status : String) (turns : Option Nat) : Effect :=
  { kind := .applyStatus, statusId := some status, statusTurns := turns }

/-- Take away the statuses with some tags, or all of them. -/
def cleanse (tags : Option (List String)) : Effect :=
  { kind := .cleanseStatus, cleanseTags := tags }

/-- Take away one status, or all of them. -/
def dispel (status : Option String) : Effect := { kind := .dispel, statusId := status }

/-- A signed change of a stat. -/
def modifyStat (k : StatKind) (amount : Float) : Effect :=
  { kind := .modifyStat, value := .flat amount, stat := some k }

/-- Add to a shield. -/
def shield (id : String) (amount : Float) : Effect :=
  { kind := .shield, value := .flat amount, shieldId := some id }

/-- Force the targets to aim at the user. -/
def taunt (turns : Nat) : Effect := { kind := .taunt, statusTurns := some turns }

/-- End the battle. -/
def flee : Effect := { kind := .flee }

/-- Bring back a target that has fainted. -/
def revive (value : Magnitude) : Effect := { kind := .revive, value := value }

/-- Bring an actor of a template into the battle. -/
def summon (template : String) : Effect :=
  { kind := .summon, value := .flat 1, summonId := some template }

/-- Add items to the inventory. -/
def giveItem (item : String) (quantity : Nat) : Effect :=
  { kind := .giveItem, value := .flat (Float.ofNat quantity), itemId := some item }

/-- Take items from the inventory. -/
def removeItem (item : String) (quantity : Nat) : Effect :=
  { kind := .removeItem, value := .flat (Float.ofNat quantity), itemId := some item }

/-- Take the next turn from the targets. -/
def preventAction : Effect := { kind := .preventAction }

end Effect

end Skirmish
