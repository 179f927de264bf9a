import Skirmish.Document.Filter

/-!
# Effects in documents

How magnitudes, selectors and effects are read and written. A magnitude is an object whose field
`kind` says which other field tells the amount.
-/

namespace Skirmish

namespace Magnitude

/-- The names of the kinds of magnitudes in their order. -/
def kinds : List String := ["flat", "percent", "formula"]

/-- Read the name of a kind, or its place in place of the name. -/
def kindOf? : Json → Option String
  | .str s => some s
  | .int n => if 0 ≤ n then kinds[n.toNat]? else none
  | _ => none

/-- Read how a magnitude is computed. -/
def ruleOf? (r : Record) : Option Rule := do
  match ← r.need "kind" kindOf? with
  | "flat" => return .flat (← r.need "amount" Json.float?)
  | "percent" => return .percent (← r.need "pct" Json.float?)
  | "formula" => return .formula (← r.need "expr" Json.str?)
  | _ => none

/-- Read a magnitude. -/
def ofJson? (j : Json) : Option Magnitude := do
  let r : Record := ⟨← j.fields?⟩
  return {
    rule := ← ruleOf? r
    least := ← r.opt "min" Json.float?
    most := ← r.opt "max" Json.float? }

/-- Write how a magnitude is computed. -/
def ruleFields : Rule → List (String × Json)
  | .flat amount => [("kind", .str "flat"), ("amount", .float amount)]
  | .percent fraction => [("kind", .str "percent"), ("pct", .float fraction)]
  | .formula text => [("kind", .str "formula"), ("expr", .str text)]

/-- Write a magnitude. -/
def toJson (m : Magnitude) : Json :=
  .obj (ruleFields m.rule ++ Json.fieldOf "min" .float m.least ++ Json.fieldOf "max" .float m.most)

end Magnitude

namespace Selector

/-- Read a selector. -/
def ofJson? (j : Json) : Option Selector := do
  let r ← Record.ofJson? ["side", "mode", "count", "ofWhat", "condition", "includeDead"] j
  return {
    pool := ← r.need "side" Pool.ofJson?
    mode := ← r.get "mode" .single Mode.ofJson?
    count := ← r.get "count" 1 Json.size?
    metric := ← r.opt "ofWhat" Metric.ofJson?
    condition := ← r.opt "condition" Filter.ofJson?
    includeDead := ← r.get "includeDead" false Json.bool? }

/-- Write a selector. -/
def toJson (s : Selector) : Json :=
  .obj [("side", .str s.pool.key), ("mode", .str s.mode.key), ("count", .ofNat s.count),
    ("ofWhat", .ofOption (fun m => .str (Metric.key m)) s.metric),
    ("condition", .ofOption Filter.toJson s.condition), ("includeDead", .bool s.includeDead)]

end Selector

namespace Effect

/-- The names of the fields of an effect in their order. -/
def keys : List String :=
  ["kind", "value", "resource", "stat", "statusId", "statusTurns", "cleanseTags", "shieldId",
    "element", "summonId", "itemId", "selector", "onlyIf", "canMiss", "canCrit",
    "sharedAccuracyRoll"]

/-- Read an effect. -/
def ofJson? (j : Json) : Option Effect := do
  let r ← Record.ofJson? keys j
  return {
    kind := ← r.need "kind" EffectKind.ofJson?
    value := ← r.get "value" {} Magnitude.ofJson?
    resource := ← r.opt "resource" Resource.ofJson?
    stat := ← r.opt "stat" StatKind.ofJson?
    statusId := ← r.opt "statusId" Json.str?
    statusTurns := ← r.opt "statusTurns" Json.count?
    cleanseTags := ← r.opt "cleanseTags" (Json.listOf? Json.str?)
    shieldId := ← r.opt "shieldId" Json.str?
    element := ← r.opt "element" Json.str?
    summonId := ← r.opt "summonId" Json.str?
    itemId := ← r.opt "itemId" Json.str?
    selector := ← r.opt "selector" Selector.ofJson?
    onlyIf := ← r.opt "onlyIf" Filter.ofJson?
    canMiss := ← r.get "canMiss" true Json.bool?
    canCrit := ← r.get "canCrit" true Json.bool?
    sharedRoll := ← r.get "sharedAccuracyRoll" false Json.bool? }

/-- Write an effect. -/
def toJson (e : Effect) : Json :=
  .obj [("kind", .str e.kind.key), ("value", e.value.toJson),
    ("resource", .ofOption (fun r => .str (Resource.key r)) e.resource),
    ("stat", .ofOption (fun k => .str (StatKind.key k)) e.stat),
    ("statusId", .ofOption .str e.statusId), ("statusTurns", .ofOption .ofNat e.statusTurns),
    ("cleanseTags", .ofOption (.ofList .str) e.cleanseTags),
    ("shieldId", .ofOption .str e.shieldId), ("element", .ofOption .str e.element),
    ("summonId", .ofOption .str e.summonId), ("itemId", .ofOption .str e.itemId),
    ("selector", .ofOption Selector.toJson e.selector),
    ("onlyIf", .ofOption Filter.toJson e.onlyIf), ("canMiss", .bool e.canMiss),
    ("canCrit", .bool e.canCrit), ("sharedAccuracyRoll", .bool e.sharedRoll)]

end Effect

end Skirmish
