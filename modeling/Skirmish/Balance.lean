import Skirmish.Table

/-!
# Balance

The constants of combat: how likely an attack hits and is critical, how much more a critical hit
does, and how elements and tags change damage.
-/

namespace Skirmish

/-- The constants of combat. -/
structure Balance where
  baseHit : Float := 0.90
  dodgeFloor : Float := 0.05
  hitCeiling : Float := 0.99
  hitPerStat : Float := 0.005
  hitPerLevel : Float := 0.02
  baseCrit : Float := 0.05
  critPerStat : Float := 0.002
  critPerLevel : Float := 0.01
  critFactor : Float := 1.5
  elementMatrix : Table (Table Float) := ∅
  resistsByTag : Table Float := ∅
deriving DecidableEq, Inhabited

namespace Balance

/-- The tag whose entry in an element's row stands for every tag without one. -/
def neutral : String := "neutral"

/-- Set the factor of an element against a tag. -/
def withElement (b : Balance) (element tag : String) (factor : Float) : Balance :=
  let row := (b.elementMatrix.get? element).getD ∅
  { b with elementMatrix := b.elementMatrix.insert element (row.insert tag factor) }

/-- Set the factor of all damage to actors with a tag. -/
def withResist (b : Balance) (tag : String) (factor : Float) : Balance :=
  { b with resistsByTag := b.resistsByTag.insert tag factor }

end Balance

end Skirmish
