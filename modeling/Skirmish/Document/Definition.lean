import Skirmish.Action
import Skirmish.Balance
import Skirmish.Document.Effect

/-!
# Definitions in documents

How statuses, skills, items and balances are read and written.
-/

namespace Skirmish

/-! ## Statuses -/

namespace Modifier

/-- Read a modifier. -/
def ofJson? (j : Json) : Option Modifier := do
  let r ← Record.ofJson? ["stat", "flat", "percent"] j
  return {
    stat := ← r.need "stat" StatKind.ofJson?
    flat := ← r.get "flat" 0 Json.float?
    percent := ← r.get "percent" 0 Json.float? }

/-- Write a modifier. -/
def toJson (m : Modifier) : Json :=
  .obj [("stat", .str m.stat.key), ("flat", .float m.flat), ("percent", .float m.percent)]

end Modifier

namespace ShieldGrant

/-- Read the shield of a status. -/
def ofJson? (j : Json) : Option ShieldGrant := do
  let r ← Record.ofJson? ["id", "value", "element"] j
  return {
    id := ← r.opt "id" Json.str?
    value := ← r.need "value" Magnitude.ofJson?
    element := ← r.opt "element" Json.str? }

/-- Write the shield of a status. -/
def toJson (g : ShieldGrant) : Json :=
  .obj [("id", .ofOption .str g.id), ("value", g.value.toJson),
    ("element", .ofOption .str g.element)]

end ShieldGrant

namespace Status

/-- The names of the fields of a status in their order. -/
def keys : List String :=
  ["id", "name", "tags", "maxStacks", "stackRule", "duration", "modifiers", "shield"] ++
    Hook.all.map Hook.key

/-- Read a status. -/
def ofJson? (j : Json) : Option Status := do
  let r ← Record.ofJson? keys j
  let hooked (h : Hook) : Option (List Effect) := r.get h.key [] (Json.listOf? Effect.ofJson?)
  return {
    id := ← r.need "id" Json.str?
    name := ← r.get "name" "" Json.str?
    tags := ← r.get "tags" [] (Json.listOf? Json.str?)
    maxStacks := ← r.get "maxStacks" 1 Json.count?
    stacking := ← r.get "stackRule" .renew Stacking.ofJson?
    duration := ← r.get "duration" 1 Json.count?
    modifiers := ← r.get "modifiers" [] (Json.listOf? Modifier.ofJson?)
    shield := ← r.opt "shield" ShieldGrant.ofJson?
    onApply := ← hooked .onApply
    onTurnStart := ← hooked .onTurnStart
    onTurnEnd := ← hooked .onTurnEnd
    onExpire := ← hooked .onExpire
    onDealDamage := ← hooked .onDealDamage
    onTakeDamage := ← hooked .onTakeDamage }

/-- Write a status. -/
def toJson (s : Status) : Json :=
  .obj ([("id", .str s.id), ("name", .str s.name), ("tags", .ofList .str s.tags),
    ("maxStacks", .ofNat s.maxStacks), ("stackRule", .str s.stacking.key),
    ("duration", .ofNat s.duration), ("modifiers", .ofList Modifier.toJson s.modifiers),
    ("shield", .ofOption ShieldGrant.toJson s.shield)] ++
    Hook.all.map fun h => (h.key, .ofList Effect.toJson (s.hooked h)))

end Status

/-! ## Actions -/

namespace Costs

/-- Read costs. -/
def ofJson? (j : Json) : Option Costs := do
  let r ← Record.ofJson? ["sta", "mp"] j
  return { sta := ← r.get "sta" 0 Json.whole?, mp := ← r.get "mp" 0 Json.whole? }

/-- Write costs. -/
def toJson (c : Costs) : Json := .obj [("sta", .int c.sta), ("mp", .int c.mp)]

end Costs

namespace Action

/-- The names of the fields of a skill in their order. -/
def skillKeys : List String :=
  ["id", "name", "element", "targeting", "effects", "canUse", "costs", "cooldown", "charges",
    "aiWeight"]

/-- Read the fields that skills and items share. -/
def ofRecord? (kind : ActionKind) (r : Record) : Option Action := do
  return {
    kind := kind
    id := ← r.need "id" Json.str?
    name := ← r.need "name" Json.str?
    element := ← r.opt "element" Json.str?
    targeting := ← r.get "targeting" .singleEnemy Selector.ofJson?
    effects := ← r.get "effects" [] (Json.listOf? Effect.ofJson?)
    canUse := ← r.opt "canUse" Filter.ofJson?
    costs := ← r.get "costs" {} Costs.ofJson?
    cooldown := ← r.get "cooldown" 0 Json.count?
    charges := ← r.opt "charges" Json.count?
    weight := ← r.get "aiWeight" 1 Json.float? }

/-- Read a skill. -/
def skillOfJson? (j : Json) : Option Action := do
  ofRecord? .skill (← Record.ofJson? skillKeys j)

/-- Read an item. -/
def itemOfJson? (j : Json) : Option Action := do
  let r ← Record.ofJson? (skillKeys ++ ["consumable"]) j
  ofRecord? (.item (← r.get "consumable" true Json.bool?)) r

/-- Write the field that items alone have. -/
def kindFields : ActionKind → List (String × Json)
  | .skill => []
  | .item consumable => [("consumable", .bool consumable)]

/-- Write an action. -/
def toJson (a : Action) : Json :=
  .obj ([("id", .str a.id), ("name", .str a.name), ("element", .ofOption .str a.element),
    ("targeting", a.targeting.toJson), ("effects", .ofList Effect.toJson a.effects),
    ("canUse", .ofOption Filter.toJson a.canUse), ("costs", a.costs.toJson),
    ("cooldown", .ofNat a.cooldown), ("charges", .ofOption .ofNat a.charges),
    ("aiWeight", .float a.weight)] ++ kindFields a.kind)

end Action

/-! ## Balances -/

namespace Balance

/-- The names of the fields of a balance in their order. -/
def keys : List String :=
  ["baseHit", "dodgeFloor", "hitCeil", "hitPerStat", "hitPerLevel", "baseCrit", "critPerStat",
    "critPerLevel", "critMult", "elementMatrix", "resistsByTag"]

/-- Read a balance; what is missing is as in the balance without changes. -/
def ofJson? (j : Json) : Option Balance := do
  let r ← Record.ofJson? keys j
  let b : Balance := {}
  return {
    baseHit := ← r.get "baseHit" b.baseHit Json.float?
    dodgeFloor := ← r.get "dodgeFloor" b.dodgeFloor Json.float?
    hitCeiling := ← r.get "hitCeil" b.hitCeiling Json.float?
    hitPerStat := ← r.get "hitPerStat" b.hitPerStat Json.float?
    hitPerLevel := ← r.get "hitPerLevel" b.hitPerLevel Json.float?
    baseCrit := ← r.get "baseCrit" b.baseCrit Json.float?
    critPerStat := ← r.get "critPerStat" b.critPerStat Json.float?
    critPerLevel := ← r.get "critPerLevel" b.critPerLevel Json.float?
    critFactor := ← r.get "critMult" b.critFactor Json.float?
    elementMatrix := ← r.get "elementMatrix" ∅ (Json.tableOf? (Json.tableOf? Json.float?))
    resistsByTag := ← r.get "resistsByTag" ∅ (Json.tableOf? Json.float?) }

/-- Write a balance. -/
def toJson (b : Balance) : Json :=
  .obj [("baseHit", .float b.baseHit), ("dodgeFloor", .float b.dodgeFloor),
    ("hitCeil", .float b.hitCeiling), ("hitPerStat", .float b.hitPerStat),
    ("hitPerLevel", .float b.hitPerLevel), ("baseCrit", .float b.baseCrit),
    ("critPerStat", .float b.critPerStat), ("critPerLevel", .float b.critPerLevel),
    ("critMult", .float b.critFactor),
    ("elementMatrix", .ofTable (.ofTable .float) b.elementMatrix),
    ("resistsByTag", .ofTable .float b.resistsByTag)]

end Balance

end Skirmish
