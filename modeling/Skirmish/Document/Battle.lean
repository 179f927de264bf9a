import Skirmish.Battle.Basic
import Skirmish.Document.Actor
import Skirmish.Number.Decimal

/-!
# Battles in documents

How a battle is written, field by field. The log is left out, as it is shown line by line. A seed is
written as a text, since it can exceed what readers of numbers keep exactly.
-/

namespace Skirmish

/-- Write a seed. -/
def Seed.toJson (s : Seed) : Json := .str (toString s.word.toNat)

/-- The word that a text of digits writes, if it fits into 64 bits; a plus may stand before them. -/
def Seed.ofText? (s : String) : Option Seed :=
  let cs :=
    match s.toList with
    | '+' :: cs => cs
    | cs => cs
  let n := digitsValue cs
  if cs.isEmpty || !cs.all Char.isDigit || greatestSize < n then none else some ⟨UInt64.ofNat n⟩

/-- Write a shield. -/
def Shield.toJson (s : Shield) : Json :=
  .obj [("id", .str s.id), ("hp", .int s.hp), ("element", .ofOption .str s.element)]

/-- Write charges. -/
def Charges.toJson (c : Charges) : Json :=
  .obj [("remaining", .ofNat c.remaining), ("max", .ofNat c.max)]

/-- Write a taunt. -/
def Taunt.toJson (t : Taunt) : Json :=
  .obj [("source_id", .str t.source), ("turns", .ofNat t.turns)]

/-- Write why a battle ended. -/
def EndReason.toJson (r : EndReason) : Json := .str r.key

namespace Battle

/-- The fields of a battle other than its actors and its log. -/
def fields (b : Battle) : List (String × Json) :=
  [("turn", .ofNat b.round), ("turn_order", .ofList .str b.order), ("current", .ofNat b.current),
    ("rng", b.seed.toJson), ("players", .ofList .str b.players),
    ("enemies", .ofList .str b.enemies), ("inventory", .ofTable .ofNat b.inventory),
    ("cooldowns", .ofTable (.ofTable .ofNat) b.cooldowns),
    ("charges", .ofTable (.ofTable Charges.toJson) b.charges),
    ("shields", .ofTable (.ofList Shield.toJson) b.shields),
    ("taunts", .ofTable Taunt.toJson b.taunts), ("prevented", .ofTable .ofNat b.prevented),
    ("boundaries", .ofNat b.boundaries), ("spawned", .ofNat b.spawned),
    ("ended", .ofOption (fun r => .obj [("reason", EndReason.toJson r)]) b.ended)]

/-- Write a battle without its log. -/
def toJson (b : Battle) : Json := .obj (b.fields ++ [("actors", .ofTable Actor.toJson b.actors)])

end Battle

end Skirmish
