import Skirmish.Battle.Basic

/-!
# Shields

The shields of an actor stand in the order in which they were first granted, at most one to an id.
`Battle.absorb` drains them in that order; a shield with an element only absorbs damage of it, and a
drained shield is gone. An actor without shields has no entry.
-/

namespace Skirmish

namespace Shield

/-- Whether a shield absorbs damage of an element. -/
def absorbs (s : Shield) (element : Option String) : Bool :=
  s.element.all fun e => element == some e

/-- Drain shields one after the other until nothing is left to absorb; what is left comes last. -/
def drain (element : Option String) : Int → List Shield → List Shield × Int
  | left, [] => ([], left)
  | left, s :: ss =>
    if left = 0 then (s :: ss, left)
    else if s.absorbs element then
      let taken := min s.hp left
      let (ss, left) := drain element (left - taken) ss
      ({ s with hp := s.hp - taken } :: ss, left)
    else
      let (ss, left) := drain element left ss
      (s :: ss, left)

/-- Add hp to the shield of an id, which takes a new element if there is one; a shield of a new id
comes last. -/
def grant (id : String) (element : Option String) (amount : Int) : List Shield → List Shield
  | [] => [⟨id, amount, element⟩]
  | s :: ss =>
    if s.id = id then
      { s with hp := saturate (s.hp + amount), element := element.or s.element } :: ss
    else s :: grant id element amount ss

end Shield

namespace Battle

/-- The shields of an actor. -/
def shieldsOf (b : Battle) (id : ActorId) : List Shield := (b.shields.get? id).getD []

/-- Replace the shields of an actor. -/
def withShields (b : Battle) (id : ActorId) (ss : List Shield) : Battle :=
  { b with shields := if ss.isEmpty then b.shields.erase id else b.shields.insert id ss }

/-- The hp of all shields of an actor. -/
def shieldTotal (b : Battle) (id : ActorId) : Int :=
  ((b.shieldsOf id).map (·.hp)).foldr (· + ·) 0

/-- A shield of an actor. -/
def shield? (b : Battle) (id : ActorId) (shield : String) : Option Shield :=
  (b.shieldsOf id).find? fun s => s.id == shield

/-- Add hp to a shield. -/
def addShield (b : Battle) (id : ActorId) (shield : String) (element : Option String)
    (amount : Int) : Battle :=
  b.withShields id (Shield.grant shield element amount (b.shieldsOf id))

/-- Take a shield away. -/
def removeShield (b : Battle) (id : ActorId) (shield : String) : Battle :=
  b.withShields id ((b.shieldsOf id).filter fun s => s.id != shield)

/-- Replace a shield by one of an amount, or take it away where the amount is not positive. -/
def setShield (b : Battle) (id : ActorId) (shield : String) (element : Option String)
    (amount : Int) : Battle :=
  let b := b.removeShield id shield
  if 0 < amount then b.addShield id shield element amount else b

/-- Absorb damage; the absorbed part comes first. -/
def absorb (b : Battle) (id : ActorId) (element : Option String) (amount : Int) : Int × Battle :=
  let amount := max 0 amount
  let (ss, left) := Shield.drain element amount (b.shieldsOf id)
  (amount - left, b.withShields id (ss.filter fun s => 0 < s.hp))

theorem shieldsOf_withShields (b : Battle) (id q : ActorId) (ss : List Shield) :
    (b.withShields id ss).shieldsOf q = if q = id then ss else b.shieldsOf q := by
  unfold withShields shieldsOf
  cases ss <;> by_cases hq : q = id <;> simp [hq, Table.get?_erase, Table.get?_insert]

end Battle

end Skirmish
