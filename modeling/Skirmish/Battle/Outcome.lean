import Skirmish.Battle.Basic

/-!
# The outcome

A battle ends in victory when no enemy is alive, and in defeat when enemies are but no player is. A
victory is rewarded at once: every living player gains the xp of all enemies together, and the first
of them all their gold. As a battle ends only once, so does its reward.
-/

namespace Skirmish

namespace Battle

/-- The sum of a stat over the enemies of a battle. -/
def spoils (b : Battle) (f : Stats → Int) : Int :=
  ((b.enemies.filterMap b.actor?).map fun a => f a.stats).foldr (· + ·) 0

/-- Give an actor xp. -/
def gainXp (b : Battle) (xp : Int) (id : ActorId) : Battle :=
  b.modifyActor id fun a => { a with stats := { a.stats with xp := saturate (a.stats.xp + xp) } }

/-- Give an actor gold. -/
def gainGold (b : Battle) (gold : Int) (id : ActorId) : Battle :=
  b.modifyActor id fun a =>
    { a with stats := { a.stats with gold := saturate (a.stats.gold + gold) } }

/-- Give xp to some actors and gold to the first of them. -/
def rewardAll (b : Battle) (xp gold : Int) (ids : List ActorId) : Battle :=
  let b := ids.foldl (fun b id => b.gainXp xp id) b
  ids.head?.elim b (b.gainGold gold)

/-- Reward the living players for all enemies. -/
def grantRewards (b : Battle) : Battle :=
  let xp := b.spoils (·.xp)
  let gold := b.spoils (·.gold)
  (b.rewardAll xp gold (b.living .player)).announce s!"Victory! Gained {xp} XP and {gold} gold."

/-- Why the battle would end now. -/
def verdict? (b : Battle) : Option EndReason :=
  if b.isDown .enemy then some .victory
  else if b.isDown .player then some .defeat
  else none

/-- End the battle if a side is down; the reason for its end comes first, also of an earlier one. -/
def judge (b : Battle) : Option EndReason × Battle :=
  match b.ended with
  | some reason => (some reason, b)
  | none =>
    match b.verdict? with
    | none => (none, b)
    | some .victory => (some .victory, (b.finish .victory).grantRewards)
    | some .defeat => (some .defeat, (b.finish .defeat).announce "Defeat...")
    | some .fled => (some .fled, b.finish .fled)

end Battle

end Skirmish
