/-!
# Whole numbers and doubles

Stats are whole numbers of 64 bits. They are modelled as integers; `saturate` brings an integer
back into the range where an operation is meant to stop at its ends. Magnitudes are computed as
doubles and become whole again by `nearest`, which rounds to the nearest integer, a half away from
zero, and stops at the ends of the range; it is exact, as it reads the double's significand and
exponent and divides by a power of two.

`lesser` and `greater` are the smaller and the larger of two doubles and skip what is not a number,
and `rank` places the doubles in one total order.
-/

namespace Skirmish

/-! ## Whole numbers -/

/-- The least whole number. -/
def leastWhole : Int := -0x8000000000000000

/-- The greatest whole number. -/
def greatestWhole : Int := 0x7fffffffffffffff

/-- The whole number nearest to an integer. -/
def saturate (n : Int) : Int := max leastWhole (min n greatestWhole)

/-- Whether an integer is a whole number of 64 bits. -/
def IsWhole (n : Int) : Prop := leastWhole ≤ n ∧ n ≤ greatestWhole

instance (n : Int) : Decidable (IsWhole n) := inferInstanceAs (Decidable (_ ∧ _))

theorem isWhole_saturate (n : Int) : IsWhole (saturate n) := by
  unfold IsWhole saturate leastWhole greatestWhole
  omega

theorem saturate_of_isWhole {n : Int} (h : IsWhole n) : saturate n = n := by
  unfold IsWhole leastWhole greatestWhole at h
  unfold saturate leastWhole greatestWhole
  omega

theorem saturate_nonneg {n : Int} (h : 0 ≤ n) : 0 ≤ saturate n := by
  unfold saturate leastWhole greatestWhole
  omega

/-- The greatest count of 32 bits. -/
def greatestCount : Nat := 0xffffffff

/-- The greatest size of 64 bits. -/
def greatestSize : Nat := 0xffffffffffffffff

/-! ## Rounding -/

/-- `m * 2 ^ e` rounded to the nearest natural number, a half upwards. -/
def roundScaled (m : Nat) (e : Int) : Nat :=
  match e with
  | .ofNat k => m <<< k
  | .negSucc k => (m >>> k + 1) / 2

/-- The sign bit of a double. -/
def signBit : Nat := 0x8000000000000000

/-- The bit that stands before the fraction of a double, unless it is next to zero. -/
def leadingBit : Nat := 0x10000000000000

/-- The whole number nearest to a double, a half away from zero; `0` for what is not a number. -/
def nearest (x : Float) : Int :=
  let bits : Nat := x.toBits.toNat
  let field : Nat := bits / leadingBit % 2048
  let fraction : Nat := bits % leadingBit
  if field = 2047 ∧ fraction ≠ 0 then 0
  else
    let magnitude : Nat :=
      if field = 0 then roundScaled fraction (-1074)
      else roundScaled (leadingBit + fraction) ((field : Int) - 1075)
    saturate (if bits < signBit then magnitude else -magnitude)

theorem isWhole_nearest (x : Float) : IsWhole (nearest x) := by
  unfold nearest
  dsimp only
  split
  · decide
  · exact isWhole_saturate _

/-- The whole number nearest to a double, and `0` below zero. -/
def nearestAbove (x : Float) : Int := max 0 (nearest x)

theorem nearestAbove_nonneg (x : Float) : 0 ≤ nearestAbove x := by
  unfold nearestAbove
  omega

theorem isWhole_nearestAbove (x : Float) : IsWhole (nearestAbove x) := by
  have h := isWhole_nearest x
  unfold IsWhole leastWhole greatestWhole at *
  unfold nearestAbove
  omega

/-! ## Order of doubles -/

/-- The smaller of two doubles, of equal ones the second; one that is not a number is skipped. -/
def lesser (a b : Float) : Float := if a.isNaN || b ≤ a then b else a

/-- The larger of two doubles, of equal ones the second; one that is not a number is skipped. -/
def greater (a b : Float) : Float := if a.isNaN || a ≤ b then b else a

/-- Whether two doubles bound an interval; one that is not a number bounds none. -/
def bounds (low high : Float) : Bool := decide (low ≤ high)

/-- The double of an interval that is nearest to a double, for doubles that bound one. -/
def confine (low high x : Float) : Float :=
  let x := if x < low then low else x
  if high < x then high else x

/-- The place of a double in the total order of doubles: negative ones come before positive ones,
`-0` comes before `0`, and what is not a number comes at the ends. -/
def rank (x : Float) : Int :=
  let bits := x.toBits.toNat
  if bits < signBit then bits else (signBit : Int) - 1 - bits

end Skirmish
