/-!
# Decimal numerals

A numeral is a run of digits and a power of ten. `decimal` takes it to the nearest double, ties to
the even one; a value beyond the doubles becomes an infinity and one too near to zero becomes `0`.
-/

namespace Skirmish

/-- The value of a digit. -/
def digitValue (c : Char) : Nat := c.toNat - '0'.toNat

/-- The natural number that a run of digits writes. -/
def digitsValue (cs : List Char) : Nat := cs.foldl (fun n c => 10 * n + digitValue c) 0

/-- The power of ten above which every value but zero is infinite. -/
def greatestPower : Int := 400

/-- The double nearest to `m * 10 ^ e`. Exponents far outside the doubles' range are cut short, so
that no large power is computed. -/
def decimal (m : Nat) (e : Int) : Float :=
  if m = 0 ∨ e + m.log2 / 3 < -greatestPower then 0
  else if greatestPower < e then Float.ofScientific 1 false greatestPower.toNat
  else Float.ofScientific m (decide (e < 0)) e.natAbs

end Skirmish
