import Skirmish.Formula.Parser

/-!
# Magnitudes

A magnitude says how large an effect is: a fixed amount, a fraction of the target's maximum of some
resource, or a formula, between optional bounds. `Magnitude.resolve` always gives a number, as a
formula that cannot be read or computed counts as zero.
-/

namespace Skirmish

namespace Magnitude

/-- How a magnitude is computed. -/
inductive Rule where
  | flat (amount : Float)
  | percent (fraction : Float)
  | formula (text : String)
deriving DecidableEq, Inhabited

end Magnitude

/-- A number that is computed for a user and a target. -/
structure Magnitude where
  rule : Magnitude.Rule := .flat 0
  least : Option Float := none
  most : Option Float := none
deriving DecidableEq, Inhabited

namespace Magnitude

/-- A fixed amount. -/
def flat (amount : Float) : Magnitude := { rule := .flat amount }

/-- A fraction of the target's maximum. -/
def percent (fraction : Float) : Magnitude := { rule := .percent fraction }

/-- The value of a formula. -/
def formula (text : String) : Magnitude := { rule := .formula text }

/-- Set both bounds. -/
def clamped (m : Magnitude) (least most : Option Float) : Magnitude :=
  { m with least := least, most := most }

/-- Compute a rule. -/
def Rule.compute (rule : Rule) (user target : Actor) (basis : Resource) : Float :=
  match rule with
  | flat amount => amount
  | percent fraction => fraction * Float.ofInt (target.stats.maximum basis)
  | formula text => (Formula.evaluate? text user target).getD 0

/-- Bring a number, or zero in place of one that is not finite, between optional bounds; the upper
bound comes last. -/
def bound (least most : Option Float) (x : Float) : Float :=
  let x := if x.isFinite then x else 0
  let x := least.elim x (greater x)
  most.elim x (lesser x)

/-- Compute a magnitude; a fraction is one of the target's maximum of the basis. -/
def resolve (m : Magnitude) (user target : Actor) (basis : Resource) : Float :=
  bound m.least m.most (m.rule.compute user target basis)

end Magnitude

end Skirmish
