import Skirmish.Battle.Basic
import Skirmish.Document.Record
import Skirmish.Status

/-!
# Names in documents

The names under which documents know the resources, stats, kinds and rules, and how each of them is
read.
-/

namespace Skirmish

/-! ## Actors and battles -/

/-- The name of a resource. -/
def Resource.key : Resource → String
  | hp => "hp"
  | sta => "sta"
  | mp => "mp"

/-- Read a resource. -/
def Resource.ofJson? : Json → Option Resource := Json.oneOf? [hp, sta, mp] key

/-- The name of a stat. -/
def StatKind.key : StatKind → String
  | attack => "atk"
  | defence => "def"
  | level => "lv"
  | maxHp => "maxHp"
  | maxSta => "maxSta"
  | maxMp => "maxMp"

/-- Read a stat; the level has a second name. -/
def StatKind.ofJson? (j : Json) : Option StatKind :=
  if j.name? == some "level" then some level
  else j.oneOf? [attack, defence, level, maxHp, maxSta, maxMp] key

/-- The name of a side. -/
def Side.key : Side → String
  | player => "player"
  | enemy => "enemy"

/-- Read a side. -/
def Side.ofJson? : Json → Option Side := Json.oneOf? [player, enemy] key

/-- The name of the reason for an end. -/
def EndReason.key : EndReason → String
  | victory => "victory"
  | defeat => "defeat"
  | fled => "fled"

/-- Read the reason for an end. -/
def EndReason.ofJson? : Json → Option EndReason := Json.oneOf? [victory, defeat, fled] key

/-! ## Filters and selectors -/

/-- The name of the fraction of a resource. -/
def Resource.fractionKey : Resource → String
  | hp => "hpPct"
  | sta => "staPct"
  | mp => "mpPct"

/-- The name of what a test reads. -/
def Subject.key : Subject → String
  | fraction r => r.fractionKey
  | attack => "atk"
  | defence => "def"
  | level => "lv"
  | status => "hasStatus"
  | tag => "tag"
  | calling => "clazz"
  | unknown => "unknown"

/-- Read what a test reads; any other name is an unknown one. -/
def Subject.ofJson? (j : Json) : Option Subject :=
  j.name?.map fun s =>
    (([fraction .hp, fraction .sta, fraction .mp, attack, defence, level, status, tag,
      calling].find? fun x => x.key == s).getD unknown)

/-- The name of a comparison. -/
def Comparison.key : Comparison → String
  | lt => "lt"
  | le => "lte"
  | eq => "eq"
  | ge => "gte"
  | gt => "gt"
  | ne => "ne"
  | oneOf => "in"
  | noneOf => "notIn"
  | unknown => "unknown"

/-- Read a comparison; any other name is an unknown one. -/
def Comparison.ofJson? (j : Json) : Option Comparison :=
  j.name?.map fun s =>
    (([lt, le, eq, ge, gt, ne, oneOf, noneOf].find? fun x => x.key == s).getD unknown)

namespace Selector

/-- The name of a pool. -/
def Pool.key : Pool → String
  | oneself => "self"
  | allies => "ally"
  | foes => "enemy"
  | anyone => "any"

/-- Read a pool. -/
def Pool.ofJson? : Json → Option Pool := Json.oneOf? [oneself, allies, foes, anyone] key

/-- The name of a mode. -/
def Mode.key : Mode → String
  | oneself => "self"
  | single => "single"
  | all => "all"
  | random => "random"
  | lowest => "lowest"
  | highest => "highest"
  | condition => "condition"

/-- Read a mode. -/
def Mode.ofJson? : Json → Option Mode :=
  Json.oneOf? [oneself, single, all, random, lowest, highest, condition] key

/-- The name of a metric. -/
def Metric.key : Metric → String
  | fraction r => r.fractionKey
  | hp => "hp"
  | attack => "atk"
  | defence => "def"
  | level => "lv"

/-- The metrics in the order of their document. -/
def Metric.all : List Metric :=
  [fraction .hp, fraction .sta, fraction .mp, hp, attack, defence, level]

/-- Read a metric. -/
def Metric.ofJson? : Json → Option Metric := Json.oneOf? all key

end Selector

/-! ## Effects and statuses -/

/-- The name of a kind of effect. -/
def EffectKind.key : EffectKind → String
  | damage => "damage"
  | heal => "heal"
  | resource => "resource"
  | applyStatus => "applyStatus"
  | cleanseStatus => "cleanseStatus"
  | dispel => "dispel"
  | modifyStat => "modifyStat"
  | shield => "shield"
  | taunt => "taunt"
  | flee => "flee"
  | revive => "revive"
  | summon => "summon"
  | giveItem => "giveItem"
  | removeItem => "removeItem"
  | preventAction => "preventAction"

/-- Read a kind of effect. -/
def EffectKind.ofJson? : Json → Option EffectKind :=
  Json.oneOf? [damage, heal, resource, applyStatus, cleanseStatus, dispel, modifyStat, shield,
    taunt, flee, revive, summon, giveItem, removeItem, preventAction] key

/-- The name of a stacking rule. -/
def Stacking.key : Stacking → String
  | ignore => "ignore"
  | renew => "renew"
  | count => "stackCount"
  | magnitude => "stackMagnitude"

/-- Read a stacking rule. -/
def Stacking.ofJson? : Json → Option Stacking := Json.oneOf? [ignore, renew, count, magnitude] key

/-- The name of a hook. -/
def Hook.key : Hook → String
  | onApply => "onApply"
  | onTurnStart => "onTurnStart"
  | onTurnEnd => "onTurnEnd"
  | onExpire => "onExpire"
  | onDealDamage => "onDealDamage"
  | onTakeDamage => "onTakeDamage"

/-- Read a hook. -/
def Hook.ofJson? : Json → Option Hook := Json.oneOf? all key

end Skirmish
