import Skirmish.Actor.Stats
import Skirmish.Table

/-!
# Actors

An actor is one participant of a battle: its stats, the statuses that it holds and the tags that
effects and filters read. An actor is never taken out of a battle; one that faints keeps its place
and is no longer `alive`.
-/

namespace Skirmish

/-- The name under which an actor takes part in a battle. -/
abbrev ActorId := String

/-- A status that an actor holds: how many of its turns remain and how often it was stacked. -/
structure Affliction where
  status : String
  remaining : Nat
  stackCount : Nat
deriving DecidableEq, Inhabited

/-- Change the first affliction of a status in a list. -/
def Affliction.updateFirst (status : String) (f : Affliction → Affliction) :
    List Affliction → List Affliction
  | [] => []
  | i :: is => if i.status = status then f i :: is else i :: updateFirst status f is

/-- A participant of a battle. -/
structure Actor where
  id : ActorId
  name : String
  stats : Stats
  afflictions : List Affliction := []
  alive : Bool := true
  tags : List String := []
  calling : Option String := none
  notes : Table String := ∅
deriving DecidableEq, Inhabited

namespace Actor

/-- Append a tag. -/
def withTag (a : Actor) (tag : String) : Actor := { a with tags := a.tags ++ [tag] }

/-- Set the calling. -/
def withCalling (a : Actor) (calling : String) : Actor := { a with calling := some calling }

/-- Whether an actor has a tag. -/
def hasTag (a : Actor) (tag : String) : Bool := a.tags.contains tag

/-- What an actor holds of a status. -/
def affliction? (a : Actor) (status : String) : Option Affliction :=
  a.afflictions.find? fun i => i.status == status

/-- Whether an actor holds a status. -/
def hasStatus (a : Actor) (status : String) : Bool := (a.affliction? status).isSome

/-- Let an actor faint, which leaves it without hp. -/
def faint (a : Actor) : Actor := { a with stats := { a.stats with hp := 0 }, alive := false }

end Actor

end Skirmish
