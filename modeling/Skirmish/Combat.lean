import Skirmish.Codex
import Skirmish.Random.Seed

/-!
# Combat

The numbers behind an attack. `Codex.effective` is an actor with the changes of its statuses in its
attack, defence and level; `Balance.hitChance` and `critChance` compare two such actors, and
`elementFactor` and `resistFactor` read the tags of the one that is hit.
-/

namespace Skirmish

namespace Codex

/-! ## Effective stats -/

/-- The modifiers that an affliction brings to a stat. -/
def modifiersOf (c : Codex) (k : StatKind) (i : Affliction) : List Modifier :=
  ((c.status? i.status).elim [] (·.modifiers)).filter fun m => m.stat == k

/-- A stat with the modifiers of every affliction, in order, rounded and at least zero. -/
def effectiveStat (c : Codex) (a : Actor) (k : StatKind) : Int :=
  nearestAbove <|
    a.afflictions.foldl
      (fun x i => (c.modifiersOf k i).foldl (fun x m => m.apply x i.stackCount) x)
      (Float.ofInt (a.stats.stat k))

/-- Whether a stat is one that combat compares. -/
def isCompared : StatKind → Bool
  | .attack | .defence | .level => true
  | _ => false

/-- Whether some affliction changes what combat compares. -/
def isModified (c : Codex) (a : Actor) : Bool :=
  a.afflictions.any fun i =>
    (c.status? i.status).any fun s => s.modifiers.any fun m => isCompared m.stat

/-- An actor as combat sees it, with effective attack, defence and level. -/
def effective (c : Codex) (a : Actor) : Actor :=
  if c.isModified a then
    { a with stats := { a.stats with
        attack := c.effectiveStat a .attack
        defence := c.effectiveStat a .defence
        level := c.effectiveStat a .level } }
  else a

end Codex

namespace Balance

/-! ## Chances -/

/-- A base value with a part for the attack that exceeds the defence and one for the levels. -/
def weigh (base perStat perLevel : Float) (attacker defender : Actor) : Float :=
  base + Float.ofInt (attacker.stats.attack - defender.stats.defence) * perStat +
    Float.ofInt (attacker.stats.level - defender.stats.level) * perLevel

/-- Whether there is a chance to hit: the least one has to be a number. -/
def hasHitChance (b : Balance) : Bool := bounds b.dodgeFloor (greater b.hitCeiling b.dodgeFloor)

/-- How likely an attacker hits a defender, where there is a chance to hit. -/
def hitChance (b : Balance) (attacker defender : Actor) : Float :=
  confine b.dodgeFloor (greater b.hitCeiling b.dodgeFloor) <|
    weigh b.baseHit b.hitPerStat b.hitPerLevel attacker defender

/-- How likely a hit is critical. -/
def critChance (b : Balance) (attacker defender : Actor) : Float :=
  confine 0 1 <| weigh b.baseCrit b.critPerStat b.critPerLevel attacker defender

example : bounds 0 1 = true := by decide

/-! ## Factors -/

/-- The factor of an element against a target: the entry of the target's first tag that has one,
else the neutral entry, else `1`. -/
def elementFactor (b : Balance) (element : Option String) (target : Actor) : Float :=
  match element.bind b.elementMatrix.get? with
  | none => 1
  | some row =>
    (((target.tags.filter (· != neutral)).findSome? row.get?).or (row.get? neutral)).getD 1

/-- The product of the factors of a target's tags. -/
def resistFactor (b : Balance) (target : Actor) : Float :=
  (target.tags.filterMap b.resistsByTag.get?).foldl (· * ·) 1

end Balance

/-! ## Rolls -/

/-- The draws of one effect. Where they are shared, the first draw of a kind serves every target. -/
structure Rolls where
  isShared : Bool
  hit : Option Float := none
  crit : Option Float := none
deriving DecidableEq, Inhabited

namespace Rolls

/-- A number for one roll: the one kept from before, if the rolls are shared, or a new one. -/
def number (shared : Bool) (kept : Option Float) (seed : Seed) : Float × Option Float × Seed :=
  match shared, kept with
  | true, some u => (u, some u, seed)
  | true, none => let (u, seed) := seed.draw; (u, some u, seed)
  | false, kept => let (u, seed) := seed.draw; (u, kept, seed)

/-- Roll whether an attack hits. -/
def rollHit (r : Rolls) (chance : Float) (seed : Seed) : Bool × Rolls × Seed :=
  let (u, kept, seed) := number r.isShared r.hit seed
  (decide (u < chance), { r with hit := kept }, seed)

/-- Roll whether a hit is critical. -/
def rollCrit (r : Rolls) (chance : Float) (seed : Seed) : Bool × Rolls × Seed :=
  let (u, kept, seed) := number r.isShared r.crit seed
  (decide (u < chance), { r with crit := kept }, seed)

end Rolls

end Skirmish
