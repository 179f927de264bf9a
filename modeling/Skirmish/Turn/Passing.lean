import Skirmish.Battle.Outcome
import Skirmish.Resolution.Boundary

/-!
# Passing the turn

When an actor ends its turn, its statuses pass a boundary if it is alive. Then a skip that it has
served is over, every cooldown and its own taunt lose a turn, the outcome is judged, and the turn
passes to the next actor that is alive. A new round begins whenever the order starts again.

Rounds are counts of 32 bits and boundaries sizes of 64. Both only go up, so it is enough to look at
them once the turn has passed: `passed?` has no result where one of them is beyond its range.
-/

namespace Skirmish

namespace Battle

/-- The actor whose turn it is, unless the battle is over. -/
def actingActor? (b : Battle) : Option ActorId := if b.isOver then none else b.currentActor?

/-- Let an actor be done with the turn that it lost. -/
def serveSkip (b : Battle) (id : ActorId) : Battle :=
  if b.isPrevented id then { b with prevented := b.prevented.erase id } else b

/-- Take one turn from some cooldowns; those without a turn left are over. -/
def shortenRow (row : Table Nat) : Table Nat := (row.mapValues (· - 1)).filter fun _ n => 0 < n

/-- Take one turn from every cooldown. -/
def shortenCooldowns (b : Battle) : Battle :=
  { b with cooldowns := (b.cooldowns.mapValues shortenRow).filter fun _ row => !row.isEmpty }

/-- Take one turn from the taunt on an actor. -/
def shortenTaunt (b : Battle) (id : ActorId) : Battle :=
  match b.taunts.get? id with
  | none => b
  | some t =>
    { b with taunts :=
        if t.turns ≤ 1 then b.taunts.erase id
        else b.taunts.insert id { t with turns := t.turns - 1 } }

/-- Go on to the next place of the order. -/
def nextPlace (b : Battle) : Battle :=
  if b.current + 1 < b.order.length then { b with current := b.current + 1 }
  else { b with current := 0, round := b.round + 1 }.announce s!"Turn {b.round + 1}"

/-- Go on to the next place of an actor that is alive, `n` places at most. -/
def advance (b : Battle) : Nat → Battle
  | 0 => b
  | n + 1 =>
    let b := b.nextPlace
    if b.currentActor?.any b.isAlive then b else b.advance n

/-- Count the boundary that an actor has passed. -/
def countBoundary (b : Battle) (id : ActorId) : Battle :=
  let b := b.serveSkip id
  ({ b with boundaries := b.boundaries + 1 }.shortenCooldowns).shortenTaunt id

/-- Judge the outcome and pass the turn on if the battle goes on. -/
def passOn (b : Battle) : Battle :=
  match b.judge with
  | (some _, b) => b
  | (none, b) => b.advance b.order.length

/-- Whether the rounds and the boundaries of a battle are within their ranges. -/
def isCounted (b : Battle) : Bool :=
  decide (b.round ≤ greatestCount) && decide (b.boundaries ≤ greatestSize)

/-- Count the boundary that an actor has passed and pass the turn on, as far as it can be
counted. -/
def passed? (b : Battle) (id : ActorId) : Option Battle :=
  let b := (b.countBoundary id).passOn
  if b.isCounted then some b else none

/-- End the turn of the acting actor. -/
def endTurn? (b : Battle) (rules : Rules) : Option Battle :=
  match b.actingActor? with
  | none => some b
  | some id =>
    let ticked :=
      if b.isAlive id then (b.play? rules fun run => tick rules.codex run id).map (·.1) else some b
    ticked.bind fun b => b.passed? id

end Battle

end Skirmish
