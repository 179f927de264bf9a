import Skirmish.Turn.Choice
import Skirmish.Turn.Passing

/-!
# Turns without a caller

`Battle.autoTurn?` plays one turn to its end: the acting actor chooses among the actions of its
side, plays what it chose and passes the turn on. `Battle.autoTurns?` repeats that for a number of
turns or until the battle is over.
-/

namespace Skirmish

namespace Battle

/-- Play an action that was chosen, if there is one; a refusal only shows in the log. -/
def playChosen? (b : Battle) (rules : Rules) (id : ActorId) : Option Action → Option Battle
  | none => some b
  | some act => (b.perform? rules act id []).map (·.1)

/-- Play the turn of an actor, who chooses among the actions of its side. What it chose comes with
the battle. -/
def autoTurn? (b : Battle) (rules : Rules) (players enemies : List Action) (id : ActorId) :
    Option (Option Action × Battle) := do
  let acts := if b.sideOf? id = some .player then players else enemies
  let (chosen, b) := b.chooseAction id acts
  return (chosen, ← (← b.playChosen? rules id chosen).endTurn? rules)

/-- Play `n` turns, or fewer if the battle is over before that. -/
def autoTurns? (b : Battle) (rules : Rules) (players enemies : List Action) :
    Nat → Option (List (Option Action) × Battle)
  | 0 => some ([], b)
  | n + 1 =>
    match b.actingActor? with
    | none => some ([], b)
    | some id => do
      let (chosen, b) ← b.autoTurn? rules players enemies id
      let (rest, b) ← b.autoTurns? rules players enemies n
      return (chosen :: rest, b)

end Battle

end Skirmish
