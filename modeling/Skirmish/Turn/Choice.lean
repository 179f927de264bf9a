import Skirmish.Turn.Play

/-!
# Choosing an action

An enemy chooses among the actions that it could play and that would find a target, in proportion to
their weights and with one draw.
-/

namespace Skirmish

namespace Battle

/-- Whether an actor could play an action now. -/
def isPlayable (b : Battle) (id : ActorId) (act : Action) : Bool :=
  (b.validate act id).isOk && b.hasCandidates act.targeting id

/-- Choose an action for an actor. Nothing is drawn when none of them can be chosen. -/
def chooseAction (b : Battle) (id : ActorId) (acts : List Action) : Option Action × Battle :=
  let playable := acts.filter (b.isPlayable id)
  let (i, seed) := b.seed.weighted (playable.map (·.weight))
  (i.bind (playable[·]?), { b with seed := seed })

end Battle

end Skirmish
