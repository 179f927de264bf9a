import Skirmish.Battle.Shields
import Skirmish.Codex

/-!
# Taking statuses away

Cleansing takes away the statuses that have one of some tags, dispelling takes away a named one;
either takes away all statuses when nothing is named. The shields that the statuses granted go with
them, and no hook runs.
-/

namespace Skirmish

namespace Battle

/-- The afflictions of an actor. -/
def afflictionsOf (b : Battle) (id : ActorId) : List Affliction :=
  (b.actor? id).elim [] (·.afflictions)

/-- Take away the shield that a status grants. -/
def removeGranted (b : Battle) (codex : Codex) (id : ActorId) (status : String) : Battle :=
  ((codex.status? status).bind Status.shieldId?).elim b (b.removeShield id)

/-- Take some statuses and their shields away; the names of the statuses come first. -/
def detach (b : Battle) (codex : Codex) (id : ActorId) (statuses : List String) :
    List String × Battle :=
  let b := b.modifyActor id fun a =>
    { a with afflictions := a.afflictions.filter fun i => !statuses.contains i.status }
  (statuses.map codex.statusName, statuses.foldl (fun b st => b.removeGranted codex id st) b)

/-- Take away the statuses of the afflictions that pass. -/
def detachWhere (b : Battle) (codex : Codex) (id : ActorId) (p : Affliction → Bool) :
    List String × Battle :=
  match ((b.afflictionsOf id).filter p).map (·.status) with
  | [] => ([], b)
  | statuses => b.detach codex id statuses

/-- Whether a status has one of some tags. -/
def isTagged (codex : Codex) (tags : List String) (i : Affliction) : Bool :=
  (codex.status? i.status).any fun s => tags.any s.hasTag

/-- Take away the statuses with one of some tags, or all of them. -/
def cleanse (b : Battle) (codex : Codex) (id : ActorId) (tags : Option (List String)) :
    List String × Battle :=
  b.detachWhere codex id fun i => tags.all fun tags => isTagged codex tags i

/-- Take away a status, or all of them. -/
def dispel (b : Battle) (codex : Codex) (id : ActorId) (status : Option String) :
    List String × Battle :=
  b.detachWhere codex id fun i => status.all fun st => i.status == st

end Battle

end Skirmish
