import Skirmish.Combat
import Skirmish.Resolution.Flow
import Skirmish.Resolution.Removal

/-!
# Immediate effects

An immediate effect changes one target at once: it makes no draw and no hook answers it. Whatever
lowers hp is followed by `Battle.faintIfDown`, so that no actor stays alive without hp.
-/

namespace Skirmish

namespace Battle

/-- The magnitude of an effect for a user and a target, as combat sees them. -/
def magnitude (b : Battle) (rules : Rules) (e : Effect) (o : Origin) (user target : ActorId) :
    Float :=
  match b.actor? user, b.actor? target with
  | some u, some t =>
    e.value.resolve (rules.codex.effective u) (rules.codex.effective t) e.basis * o.scale
  | _, _ => 0

/-- Let an actor faint that is alive without hp. -/
def faintIfDown (b : Battle) (id : ActorId) : Battle :=
  match b.actor? id with
  | none => b
  | some a =>
    if a.alive && decide (a.stats.hp ≤ 0) then
      (b.modifyActor id Actor.faint).announce s!"{a.name} fainted!"
    else b

/-- The change that adding to a resource of an actor makes. -/
def changeOf (b : Battle) (id : ActorId) (r : Resource) (delta : Int) : Int :=
  (b.actor? id).elim 0 fun a => a.stats.change r delta

/-- Add to a resource of an actor. -/
def addResource (b : Battle) (id : ActorId) (r : Resource) (delta : Int) : Battle :=
  b.modifyActor id fun a => { a with stats := a.stats.add r delta }

/-! ## The kinds -/

/-- Restore a resource. -/
def heal (b : Battle) (id : ActorId) (r : Resource) (amount : Int) : Battle :=
  (b.addResource id r amount).announce
    s!"{b.nameOf id} recovers {b.changeOf id r amount} {r.label}."

/-- Change a resource either way. -/
def changeResource (b : Battle) (id : ActorId) (r : Resource) (delta : Int) : Battle :=
  let n := b.changeOf id r delta
  let verb := if 0 ≤ n then "gains" else "loses"
  ((b.addResource id r delta).announce
    s!"{b.nameOf id} {verb} {n.natAbs} {r.label}.").faintIfDown id

/-- Change a stat for the rest of the battle. -/
def modifyStat (b : Battle) (id : ActorId) (k : StatKind) (delta : Int) : Battle :=
  let verb := if 0 ≤ delta then "rises" else "falls"
  ((b.modifyActor id fun a => { a with stats := a.stats.adjust k delta }).announce
    s!"{b.nameOf id}'s {k.label} {verb} by {delta.natAbs}.").faintIfDown id

/-- Force an actor to aim at another one. -/
def tauntBy (b : Battle) (id source : ActorId) (turns : Nat) : Battle :=
  { b with taunts := b.taunts.insert id ⟨source, turns⟩ }.announce
    s!"{b.nameOf id} is taunted by {b.nameOf source}!"

/-- Bring back an actor that is down, with at least one hp. -/
def revive (b : Battle) (id : ActorId) (amount : Int) : Battle :=
  let top := (b.actor? id).elim 0 (·.stats.maxHp)
  if b.isAlive id || decide (top ≤ 0) then b
  else
    let hp := min (max amount 1) top
    (b.modifyActor id fun a => { a with alive := true, stats := a.stats.set .hp hp }).announce
      s!"{b.nameOf id} was revived with {hp} HP!"

/-- Take the next turn from an actor. -/
def prevent (b : Battle) (id : ActorId) : Battle :=
  { b with prevented := b.prevented.insert id b.boundaries }.announce
    s!"{b.nameOf id} will lose their next turn."

/-- Names with commas between them. -/
def listed (names : List String) : String := ", ".intercalate names

/-- Cleanse an actor and say of what. -/
def cleanseAloud (b : Battle) (codex : Codex) (id : ActorId) (tags : Option (List String)) :
    Battle :=
  match b.cleanse codex id tags with
  | ([], b) => b
  | (names, b) => b.announce s!"{b.nameOf id} was cleansed of {listed names}."

/-- Dispel statuses of an actor and say which. -/
def dispelAloud (b : Battle) (codex : Codex) (id : ActorId) (status : Option String) : Battle :=
  match b.dispel codex id status with
  | ([], b) => b
  | (names, b) => b.announce s!"{listed names} dispelled from {b.nameOf id}."

/-- Grant a shield and say how large it is. -/
def shieldAloud (b : Battle) (id : ActorId) (shield : String) (element : Option String)
    (amount : Int) : Battle :=
  (b.addShield id shield element amount).announce s!"{b.nameOf id} gains a {amount} HP shield."

/-! ## Dispatch -/

/-- The id of a shield that an effect does not name. -/
def unnamedShield : String := "shield"

/-- Apply an immediate effect to a target. The kinds that draw, that hooks answer or that have no
target are not immediate and change nothing here. -/
def applyImmediate (b : Battle) (rules : Rules) (e : Effect) (o : Origin) (user id : ActorId) :
    Battle :=
  let amount := b.magnitude rules e o user id
  match e.kind with
  | .heal => b.heal id (e.resource.getD .hp) (nearestAbove amount)
  | .resource => b.changeResource id (e.resource.getD .hp) (nearest amount)
  | .cleanseStatus => b.cleanseAloud rules.codex id e.cleanseTags
  | .dispel => b.dispelAloud rules.codex id e.statusId
  | .modifyStat => e.stat.elim b fun k => b.modifyStat id k (nearest amount)
  | .shield => b.shieldAloud id (e.shieldId.getD unnamedShield) e.element (nearestAbove amount)
  | .taunt => b.tauntBy id user (e.statusTurns.getD 1)
  | .revive => b.revive id (nearest amount)
  | .preventAction => b.prevent id
  | .damage | .applyStatus | .flee | .summon | .giveItem | .removeItem => b

end Battle

end Skirmish
