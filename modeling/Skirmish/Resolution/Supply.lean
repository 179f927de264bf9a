import Skirmish.Resolution.Immediate

/-!
# Effects without a target

Fleeing, summoning and changing the inventory happen once for their user. Summoned actors get the id
of their template with a number that no actor has yet. The numbers are counts of 32 bits; `supply`
counts on beyond them, and `supplied?` has no result where it would have to.
-/

namespace Skirmish

namespace Battle

/-! ## Summoning -/

/-- The id of a summoned actor. -/
def summonId (template : String) (n : Nat) : ActorId := s!"{template}#{n}"

/-- The first number, after those that were given out, whose id is free. There are fewer ids to pass
than numbers to try. -/
def freeNumber? (b : Battle) (template : String) : Option Nat :=
  (List.range' (b.spawned + 1) (b.actors.size + 1)).find? fun n =>
    !b.actors.contains (summonId template n)

/-- The level of what an actor summons. -/
def summonLevel (b : Battle) (user : ActorId) : Nat :=
  min ((b.actor? user).elim 1 fun a => a.stats.level.toNat) greatestCount

/-- Summon one actor of a template to the side of the user. -/
def summonOne (b : Battle) (codex : Codex) (template : String) (user : ActorId) : Battle :=
  match b.sideOf? user, codex.spawn? template (b.summonLevel user), b.freeNumber? template with
  | some side, some a, some n =>
    ({ b with spawned := n }.enter side { a with id := summonId template n }).announce
      s!"{b.nameOf user} summons {a.name}!"
  | _, _, _ => b

/-- The most actors that one effect summons. -/
def greatestSummons : Nat := 8

/-- Summon a number of actors. -/
def summonMany (b : Battle) (codex : Codex) (template : String) (user : ActorId) : Nat → Battle
  | 0 => b
  | n + 1 => (b.summonOne codex template user).summonMany codex template user n

/-! ## Inventory -/

/-- The number of units that an effect moves: a whole number from `1` to `greatestCount`, and one
unit for any other. -/
def unitsOf (n : Int) : Nat := if 1 ≤ n ∧ n ≤ greatestCount then n.toNat else 1

/-- The name that the log shows for an item. -/
def itemLabel (codex : Codex) (item : String) : String :=
  ((codex.item? item).map (·.name)).getD item

/-- Add units of an item. -/
def giveItem (b : Battle) (codex : Codex) (item : String) (user : ActorId) (n : Nat) : Battle :=
  (b.withItem item (min (b.itemCount item + n) greatestCount)).announce
    s!"{b.nameOf user} obtained {n} {itemLabel codex item}."

/-- Take units of an item, as far as there are some. -/
def takeItem (b : Battle) (codex : Codex) (item : String) (user : ActorId) (n : Nat) : Battle :=
  (b.withItem item (b.itemCount item - n)).announce
    s!"{b.nameOf user} lost {min n (b.itemCount item)} {itemLabel codex item}."

/-! ## Dispatch -/

/-- Apply an effect without a target for its user. -/
def supply (b : Battle) (rules : Rules) (e : Effect) (o : Origin) (user : ActorId) :
    Battle × Flow :=
  let amount := nearest (b.magnitude rules e o user user)
  match e.kind with
  | .flee => ((b.announce s!"{b.nameOf user} fled from battle!").finish .fled, .halt)
  | .summon =>
    let n := (min (max amount 1) greatestSummons).toNat
    (e.summonId.elim b fun template => b.summonMany rules.codex template user n, .proceed)
  | .giveItem =>
    (e.itemId.elim b fun item => b.giveItem rules.codex item user (unitsOf amount), .proceed)
  | .removeItem =>
    (e.itemId.elim b fun item => b.takeItem rules.codex item user (unitsOf amount), .proceed)
  | _ => (b, .proceed)

/-- Whether the numbers that an effect gives out are counts. -/
def HasNumbers (b : Battle) (rules : Rules) (e : Effect) (o : Origin) (user : ActorId) : Prop :=
  (b.supply rules e o user).1.spawned ≤ max b.spawned greatestCount

instance (b : Battle) (rules : Rules) (e : Effect) (o : Origin) (user : ActorId) :
    Decidable (b.HasNumbers rules e o user) :=
  inferInstanceAs (Decidable (_ ≤ _))

theorem hasNumbers_of_spawned_eq {b : Battle} {rules : Rules} {e : Effect} {o : Origin}
    {user : ActorId} (h : (b.supply rules e o user).1.spawned = b.spawned) :
    b.HasNumbers rules e o user :=
  Nat.le_trans (Nat.le_of_eq h) (Nat.le_max_left ..)

/-- Apply an effect without a target for its user, if the numbers suffice for whom it summons. -/
def supplied? (b : Battle) (rules : Rules) (e : Effect) (o : Origin) (user : ActorId) :
    Option (Battle × Flow) :=
  if b.HasNumbers rules e o user then some (b.supply rules e o user) else none

theorem supplied?_of_hasNumbers {b : Battle} {rules : Rules} {e : Effect} {o : Origin}
    {user : ActorId} (h : b.HasNumbers rules e o user) :
    b.supplied? rules e o user = some (b.supply rules e o user) := if_pos h

theorem supplied?_cases (b : Battle) (rules : Rules) (e : Effect) (o : Origin) (user : ActorId) :
    (b.HasNumbers rules e o user ∧
        b.supplied? rules e o user = some (b.supply rules e o user)) ∨
      (¬b.HasNumbers rules e o user ∧ b.supplied? rules e o user = none) := by
  unfold supplied?
  split
  · next h => exact .inl ⟨h, rfl⟩
  · next h => exact .inr ⟨h, rfl⟩

end Battle

end Skirmish
