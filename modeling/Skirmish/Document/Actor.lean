import Skirmish.Codex
import Skirmish.Document.Name

/-!
# Actors in documents

How stats, afflictions and actors are read and written. A stat that is not written is zero, and an
actor is alive and holds nothing unless its document says so.
-/

namespace Skirmish

namespace Stats

/-- The names of the stats in their order. -/
def keys : List String :=
  ["hp", "maxHp", "sta", "maxSta", "mp", "maxMp", "atk", "def", "level", "xp", "gold"]

/-- Read a stat block. -/
def ofJson? (j : Json) : Option Stats := do
  let r ← Record.ofJson? keys j
  let read (name : String) : Option Int := r.get name 0 Json.whole?
  return {
    hp := ← read "hp"
    maxHp := ← read "maxHp"
    sta := ← read "sta"
    maxSta := ← read "maxSta"
    mp := ← read "mp"
    maxMp := ← read "maxMp"
    attack := ← read "atk"
    defence := ← read "def"
    level := ← read "level"
    xp := ← read "xp"
    gold := ← read "gold" }

/-- Write a stat block. -/
def toJson (s : Stats) : Json :=
  .obj [("hp", .int s.hp), ("maxHp", .int s.maxHp), ("sta", .int s.sta),
    ("maxSta", .int s.maxSta), ("mp", .int s.mp), ("maxMp", .int s.maxMp),
    ("atk", .int s.attack), ("def", .int s.defence), ("level", .int s.level), ("xp", .int s.xp),
    ("gold", .int s.gold)]

end Stats

namespace Affliction

/-- Read a status that an actor holds. -/
def ofJson? (j : Json) : Option Affliction := do
  let r ← Record.ofJson? ["statusId", "remaining", "stacks"] j
  return {
    status := ← r.need "statusId" Json.str?
    remaining := ← r.need "remaining" Json.count?
    stackCount := ← r.need "stacks" Json.count? }

/-- Write a status that an actor holds. -/
def toJson (i : Affliction) : Json :=
  .obj [("statusId", .str i.status), ("remaining", .ofNat i.remaining),
    ("stacks", .ofNat i.stackCount)]

end Affliction

namespace Actor

/-- The names of the fields of an actor in their order. -/
def keys : List String := ["id", "name", "stats", "statuses", "alive", "tags", "clazz", "meta"]

/-- Read an actor. -/
def ofJson? (j : Json) : Option Actor := do
  let r ← (← Record.ofJson? keys j).rename? "class" "clazz"
  return {
    id := ← r.need "id" Json.str?
    name := ← r.need "name" Json.str?
    stats := ← r.need "stats" Stats.ofJson?
    afflictions := ← r.get "statuses" [] (Json.listOf? Affliction.ofJson?)
    alive := ← r.get "alive" true Json.bool?
    tags := ← r.get "tags" [] (Json.listOf? Json.str?)
    calling := ← r.opt "clazz" Json.str?
    notes := ← r.get "meta" ∅ (Json.tableOf? Json.str?) }

/-- Write an actor. -/
def toJson (a : Actor) : Json :=
  .obj [("id", .str a.id), ("name", .str a.name), ("stats", a.stats.toJson),
    ("statuses", .ofList Affliction.toJson a.afflictions), ("alive", .bool a.alive),
    ("tags", .ofList .str a.tags), ("clazz", .ofOption .str a.calling),
    ("meta", .ofTable .str a.notes)]

end Actor

/-- Read a breed. -/
def Breed.ofJson? (j : Json) : Option Breed := do
  return {
    base := ← Actor.ofJson? (j.field "base")
    perLevel := ← if j.hasField "perLevel" then Stats.ofJson? (j.field "perLevel") else some {} }

end Skirmish
