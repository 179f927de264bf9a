import Skirmish.Effect

/-!
# Actions

An action is what an actor does in its turn. Skills and items have one form; an item is drawn from
the party's inventory, and a consumable one is used up.
-/

namespace Skirmish

/-- What an action takes from the actor. -/
structure Costs where
  sta : Int := 0
  mp : Int := 0
deriving DecidableEq, Inhabited

/-- Whether an action is a skill or an item. -/
inductive ActionKind where
  | skill
  | item (consumable : Bool)
deriving DecidableEq, Inhabited

/-- What an actor can do in its turn. -/
structure Action where
  kind : ActionKind
  id : String
  name : String
  element : Option String := none
  targeting : Selector := .singleEnemy
  effects : List Effect := []
  canUse : Option Filter := none
  costs : Costs := {}
  cooldown : Nat := 0
  charges : Option Nat := none
  weight : Float := 1
deriving Inhabited

namespace Action

/-- A free skill without effects, aimed at the first foe. -/
def skill (id name : String) : Action := { kind := .skill, id := id, name := name }

/-- A consumable item without effects, aimed at its user. -/
def item (id name : String) : Action :=
  { kind := .item true, id := id, name := name, targeting := .user }

/-- Append an effect. -/
def withEffect (a : Action) (e : Effect) : Action := { a with effects := a.effects ++ [e] }

/-- Keep the item when it is used. -/
def reusable (a : Action) : Action := { a with kind := .item false }

/-- The inventory entry that an action needs. -/
def inventoryItem? (a : Action) : Option String :=
  match a.kind with
  | .skill => none
  | .item _ => some a.id

/-- Whether a use takes one unit from the inventory. -/
def consumesItem (a : Action) : Bool := a.kind == .item true

end Action

end Skirmish
