import Mathlib
import Skirmish.Proofs.Doubles

/-!
# Whole numbers as doubles

Stats are whole numbers, and combat counts with doubles. A whole number that is made a double and
rounded back (`nearestAbove`) is what it was exactly if it is not negative and has at most 53
significant bits, or if it is the greatest one, at which rounding stops
(`nearestAbove_ofInt_eq_iff`).

The conversion rounds a significand to 53 bits. A number that has no more is kept
(`Double.round_exact`), and any number is brought to a multiple of the distance that doubles have
where it is (`Double.round_shape`), so that no other number is kept. Either way the result has all
53 bits, and `Double.nearest_pack` reads it back from the bits that it is packed to.
-/

namespace Skirmish

open Float.Model (Format UnpackedFloat totalExponent)
open Float.Model.UnpackedFloat

/-- Whether a natural number has at most 53 significant bits, as many as a double has room for. -/
def IsExact (n : Nat) : Prop := 2 ^ (n.log2 - 52) ∣ n

instance (n : Nat) : Decidable (IsExact n) := inferInstanceAs (Decidable (_ ∣ _))

theorem isExact_of_log2_le {n : Nat} (h : n.log2 ≤ 52) : IsExact n := by
  rw [IsExact, Nat.sub_eq_zero_of_le h]
  exact one_dvd n

namespace Double

/-! ## Shifts -/

theorem log2_shiftLeft {m : Nat} (hm : 0 < m) (k : Nat) : (m <<< k).log2 = m.log2 + k := by
  induction k generalizing m with
  | zero => rfl
  | succ k ih => rw [Nat.shiftLeft_succ_inside, ih (by omega), Nat.log2_two_mul (by omega)]; omega

/-- Zeros that are shifted in are shifted out without a trace. -/
theorem shiftRight_shiftLeft (m k : Nat) :
    ExtendedMantissa.ofMantissaAndAccuracy (m <<< k) .exact >>> k =
      ExtendedMantissa.ofMantissaAndAccuracy m .exact := by
  -- the zero that is shifted in last is shifted out last
  induction k generalizing m with
  | zero => rfl
  | succ k ih =>
    rw [Nat.shiftLeft_succ_inside]
    change (ExtendedMantissa.ofMantissaAndAccuracy ((2 * m) <<< k) .exact >>> k).shiftRightOne = _
    rw [ih]
    simp [ExtendedMantissa.shiftRightOne, ExtendedMantissa.ofMantissaAndAccuracy]

theorem roundedMantissa_le (em : ExtendedMantissa) : em.roundedMantissa ≤ em.mantissa + 1 := by
  obtain ⟨m, r, s⟩ := em
  cases r <;> cases s <;>
    simp [ExtendedMantissa.roundedMantissa, ExtendedMantissa.accuracy, Accuracy.roundToNearestEven]
  omega

/-! ## Rounding -/

theorem pos_of_log2 {n : Nat} (h : n.log2 ≠ 0) : 0 < n :=
  Nat.pos_of_ne_zero fun hn => h (by rw [hn, Nat.log2_zero])

theorem pos_of_full {m : Nat} (hlog : m.log2 = 52) : 0 < m := pos_of_log2 (by omega)

theorem shift_full {m : Nat} {e : Int} (he : -1074 ≤ m.log2 + e - 52) :
    shiftToTargetExponent .binary64 m e .exact =
      (ExtendedMantissa.ofMantissaAndAccuracy m .exact >>> (m.log2 - 52),
        e + (m.log2 - 52 : Nat)) := by
  simp only [shiftToTargetExponent, shiftToExponent, target_eq]
  rw [show (max (m.log2 + e - 52) (-1074) - e).toNat = m.log2 - 52 by omega]

/-- A significand of 53 bits stays, and the zeros behind it are dropped. -/
theorem shift_zeros {m : Nat} {e : Int} (hlog : m.log2 = 52) (he : -1074 ≤ e) (k : Nat) :
    shiftToTargetExponent .binary64 (m <<< k) (e - k) .exact =
      (ExtendedMantissa.ofMantissaAndAccuracy m .exact, e) := by
  have hk : (m <<< k).log2 = 52 + k := by rw [log2_shiftLeft (pos_of_full hlog), hlog]
  rw [shift_full (by omega), hk, Nat.add_sub_cancel_left, shiftRight_shiftLeft, Int.sub_add_cancel]

theorem shift_none {m : Nat} {e : Int} (hlog : m.log2 = 52) (he : -1074 ≤ e) :
    shiftToTargetExponent .binary64 m e .exact =
      (ExtendedMantissa.ofMantissaAndAccuracy m .exact, e) := by
  simpa using shift_zeros hlog he 0

/-- Where both shifts of a rounding end with a significand, they end with the result. -/
theorem round_of_shifts {m : Nat} {e f g : Int} {em em₂ : ExtendedMantissa}
    (h : shiftToTargetExponent .binary64 m e .exact = (em, f))
    (h₂ : shiftToTargetExponent .binary64 em.roundedMantissa f .exact = (em₂, g))
    (hm : 0 < em₂.mantissa) :
    roundWithAccuracy .binary64 .positive m e .exact = .finite .positive em₂.mantissa g hm := by
  unfold roundWithAccuracy
  simp only [h, h₂]
  exact dif_neg hm.ne'

/-- Rounding keeps a significand of 53 bits and drops the zeros behind it. -/
theorem round_exact {m : Nat} {e : Int} (hlog : m.log2 = 52) (he : -1074 ≤ e) (k : Nat) :
    roundWithAccuracy .binary64 .positive (m <<< k) (e - k) .exact =
      .finite .positive m e (pos_of_full hlog) :=
  round_of_shifts (shift_zeros hlog he k) (shift_none hlog he) (pos_of_full hlog)

/-- Whatever is rounded to 53 bits has 53 bits, at the exponent of its leading one or, where
rounding carries, at the next. -/
theorem round_shape {m : Nat} {e : Int} (hm : 52 ≤ m.log2) (he : -1074 ≤ m.log2 + e - 52) :
    ∃ (r : Nat) (f : Int) (h : 0 < r),
      roundWithAccuracy .binary64 .positive m e .exact = .finite .positive r f h ∧
        r.log2 = 52 ∧ m.log2 + e - 52 ≤ f ∧ f ≤ m.log2 + e - 51 := by
  obtain ⟨em, hem⟩ : ∃ em, em =
    ExtendedMantissa.ofMantissaAndAccuracy m .exact >>> (m.log2 - 52) := ⟨_, rfl⟩
  obtain ⟨f, hf⟩ : ∃ f, f = e + (m.log2 - 52 : Nat) := ⟨_, rfl⟩
  have hshift := shift_full he
  rw [← hem, ← hf] at hshift
  have hlog : em.mantissa.log2 = 52 := by
    rw [hem, shiftRight_mantissa, mantissa_of, log2_shiftRight]
    omega
  obtain ⟨hlow, hhigh⟩ := (Nat.log2_eq_iff (pos_of_full hlog).ne').1 hlog
  have hle := le_roundedMantissa em
  have hge := roundedMantissa_le em
  rcases Nat.lt_or_ge em.roundedMantissa (2 ^ 53) with hlt | hcarry
  · have hr : em.roundedMantissa.log2 = 52 :=
      (Nat.log2_eq_iff (by omega)).2 ⟨Nat.le_trans hlow hle, hlt⟩
    have hsecond := shift_none hr (e := f) (by omega)
    exact ⟨_, _, _, round_of_shifts hshift hsecond (pos_of_full hr), hr, by omega, by omega⟩
  · have hr : em.roundedMantissa = 2 ^ 52 <<< 1 := by omega
    have hfull : (2 ^ 52).log2 = 52 := Nat.log2_two_pow
    have hsecond := shift_zeros hfull (e := f + 1) (by omega) 1
    rw [← hr, Int.natCast_one, Int.add_sub_cancel] at hsecond
    exact ⟨_, _, _, round_of_shifts hshift hsecond (pos_of_full hfull), hfull, by omega, by omega⟩

/-! ## Bits -/

theorem toNat_packComponents (e : BitVec 11) (m : BitVec 52) :
    (packComponents .binary64 .positive e m).toNat = e.toNat * leadingBit + m.toNat := by
  change ((0#1 ++ e) ++ m).toNat = _
  rw [BitVec.toNat_append, ← Nat.shiftLeft_add_eq_or_of_lt m.isLt, BitVec.toNat_append,
    Nat.shiftLeft_eq]
  simp [leadingBit]

/-- The bits of a number with 53 significant bits: the exponent counted from the least one, and the
significand without its leading bit. -/
theorem pack_full {m : Nat} {e : Int} (hlog : m.log2 = 52) (hlow : -1074 ≤ e) (hhigh : e ≤ 971) :
    pack .binary64 (.finite .positive m e (pos_of_full hlog)) =
      packComponents .binary64 .positive (BitVec.ofNat 11 (e + 1075).toNat)
        (BitVec.ofNat 52 m) := by
  have hbias : e + Format.binary64.exponentBias + Format.binary64.mantissaBitsWithoutImplicit =
      e + 1075 := by
    change e + 1023 + 52 = e + 1075
    omega
  simp only [pack, hbias]
  rw [if_neg (by omega), if_pos (by rw [hlog]; rfl)]

theorem nearest_pack {m : Nat} {e : Int} (hlog : m.log2 = 52) (hlow : -1074 ≤ e) (hhigh : e ≤ 971) :
    nearest (.ofModel (.pack (.finite .positive m e (pos_of_full hlog)))) =
      saturate (roundScaled m e) := by
  obtain ⟨hm, hm'⟩ := (Nat.log2_eq_iff (pos_of_full hlog).ne').1 hlog
  have hbits : (Float.ofModel (.pack (.finite .positive m e (pos_of_full hlog)))).toBits.toNat =
      (e + 1075).toNat * leadingBit + (m - leadingBit) := by
    change (pack .binary64 (.finite .positive m e (pos_of_full hlog))).toNat = _
    rw [pack_full hlog hlow hhigh, toNat_packComponents, BitVec.toNat_ofNat, BitVec.toNat_ofNat,
      Nat.mod_eq_of_lt (by omega), Nat.mod_eq_sub_mod hm, Nat.mod_eq_of_lt (by omega)]
    rfl
  unfold nearest
  simp only [hbits]
  generalize hE : (e + 1075).toNat = E
  generalize hF : m - leadingBit = F
  have hfield : (E * leadingBit + F) / leadingBit % 2048 = E := by unfold leadingBit at *; omega
  have hfraction : (E * leadingBit + F) % leadingBit = F := by unfold leadingBit at *; omega
  have hsign : E * leadingBit + F < signBit := by unfold leadingBit signBit at *; omega
  rw [hfield, hfraction, if_neg (by omega), if_pos hsign, if_neg (by omega),
    show leadingBit + F = m by unfold leadingBit at *; omega, show (E : Int) - 1075 = e by omega]

theorem unpack_pack {m : Nat} {e : Int} (hlog : m.log2 = 52) (hlow : -1074 ≤ e) (hhigh : e ≤ 971) :
    unpack .binary64 (pack .binary64 (.finite .positive m e (pos_of_full hlog))) =
      .finite .positive m e (pos_of_full hlog) := by
  obtain ⟨hm, hm'⟩ := (Nat.log2_eq_iff (pos_of_full hlog).ne').1 hlog
  have hE : (BitVec.ofNat 11 (e + 1075).toNat).toNat = (e + 1075).toNat := by
    rw [BitVec.toNat_ofNat, Nat.mod_eq_of_lt (by omega)]
  have hF : (1#1 ++ BitVec.ofNat 52 m).toNat = m := by
    rw [toNat_one_append, BitVec.toNat_ofNat, Nat.mod_eq_sub_mod hm, Nat.mod_eq_of_lt (by omega)]
    exact Nat.add_sub_cancel' hm
  have hinf : BitVec.ofNat 11 (e + 1075).toNat ≠ -1#11 := fun h => by
    rw [h] at hE
    change 2047 = _ at hE
    omega
  have hzero : BitVec.ofNat 11 (e + 1075).toNat ≠ 0#11 := fun h => by
    rw [h] at hE
    change 0 = _ at hE
    omega
  have hexp : ((e + 1075).toNat : Int) - (1023 + 52) = e := by omega
  rw [pack_full hlog hlow hhigh]
  simp only [unpack, unpackMantissa_packComponents, unpackExponent_packComponents,
    unpackSign_packComponents, Sign.ofBitVec_toBitVec]
  rw [if_neg hinf, if_neg hzero]
  simp only [hF, hE]
  congr 1

/-! ## Conversion -/

theorem log2_shiftLeft_full {n : Nat} (hn : 0 < n) (hlog : n.log2 ≤ 52) :
    (n <<< (52 - n.log2)).log2 = 52 := by
  rw [log2_shiftLeft hn]
  omega

/-- Below 2 ^ 53 zeros are put behind a number up to the 53rd bit. -/
theorem ofInt_small {n : Nat} (hn : 0 < n) (hlog : n.log2 ≤ 52) :
    UnpackedFloat.ofInt .binary64 n = .finite .positive (n <<< (52 - n.log2)) (n.log2 - 52)
      (pos_of_full (log2_shiftLeft_full hn hlog)) := by
  simp only [UnpackedFloat.ofInt, UnpackedFloat.normalize]
  rw [Int.compare_eq_gt.2 (by omega)]
  simp only [UnpackedFloat.round, decreaseExponent, target_eq, Int.toNat_natCast]
  rw [show ((0 : Int) - max ((n.log2 : Int) + 0 - 52) (-1074)).toNat = 52 - n.log2 by omega,
    show (0 : Int) - (52 - n.log2 : Nat) = n.log2 - 52 by omega]
  simpa using round_exact (log2_shiftLeft_full hn hlog) (e := n.log2 - 52) (by omega) 0

theorem unpack_one :
    (1 : Float).toModel.unpack = .finite .positive (1 <<< 52) (-52) (by decide) := by
  rfl

theorem ofNat_small {n : Nat} (hn : 0 < n) (hlog : n.log2 ≤ 52) :
    Float.ofNat n = .ofModel (.pack (.finite .positive (n <<< (52 - n.log2)) (n.log2 - 52)
      (pos_of_full (log2_shiftLeft_full hn hlog)))) := by
  have hlt : n < 2 ^ 53 := (Nat.log2_lt hn.ne').1 (by omega)
  have htoNat : n.toUInt64.toNat = n := by
    rw [Nat.toUInt64, UInt64.toNat_ofNat', Nat.mod_eq_of_lt (by omega)]
  -- what is read as a scientific number without an exponent is multiplied by one
  have hscientific : Float.ofNat n = n.toUInt64.toFloat * 1 := by
    change Float.ofScientific n false 0 = _
    rw [Float.ofScientific, dif_pos ⟨hlt, by decide⟩]
    rfl
  have hunpack : n.toUInt64.toFloat.toModel.unpack = .finite .positive (n <<< (52 - n.log2))
      (n.log2 - 52) (pos_of_full (log2_shiftLeft_full hn hlog)) := by
    change unpack .binary64 (pack .binary64 (UnpackedFloat.ofInt .binary64 n.toUInt64.toNat)) = _
    rw [htoNat, ofInt_small hn hlog,
      unpack_pack (log2_shiftLeft_full hn hlog) (by omega) (by omega)]
  have hround := round_exact (log2_shiftLeft_full hn hlog) (e := n.log2 - 52) (by omega) 52
  rw [Nat.shiftLeft_eq _ 52] at hround
  rw [hscientific, ← hround]
  change Float.ofModel (.pack (mul .binary64 n.toUInt64.toFloat.toModel.unpack
    (1 : Float).toModel.unpack)) = _
  rw [hunpack, unpack_one]
  rfl

/-- From 2 ^ 53 on, what is made of a number is rounded. -/
theorem ofNat_large {n : Nat} (hlog : 52 < n.log2) :
    Float.ofNat n =
      .ofModel (.pack (roundWithAccuracy .binary64 .positive (n <<< 53) (-53) .exact)) := by
  have hn : n ≠ 0 := (pos_of_log2 (by omega)).ne'
  have hge : ¬ n < 2 ^ 53 := fun hlt => by
    have := (Nat.log2_lt hn).2 hlt
    omega
  have hexp : ¬ (0 : Int) < -((2 ^ Format.binary64.exponentBits : Int) + n.log2) := by
    change ¬ (0 : Int) < -(2048 + n.log2)
    omega
  have hone : n <<< 53 * 10 ^ (0 : Int).toNat = n <<< 53 := Nat.mul_one _
  change Float.ofScientific n false 0 = _
  rw [Float.ofScientific, dif_neg fun h => hge h.1]
  change Float.ofModel (.pack (UnpackedFloat.ofScientific .binary64 n 0)) = _
  rw [UnpackedFloat.ofScientific, dif_neg hn, if_neg (by decide), if_neg hexp, if_pos (by decide)]
  change Float.ofModel (.pack (roundWithAccuracy .binary64 .positive
    (n <<< 53 * 10 ^ (0 : Int).toNat) (-53) .exact)) = _
  rw [hone]

theorem roundScaled_shiftLeft (m k : Nat) : roundScaled (m <<< k) (-k) = m := by
  cases k with
  | zero => rfl
  | succ k =>
    change ((m <<< (k + 1)) >>> k + 1) / 2 = m
    rw [Nat.shiftLeft_succ_inside, Nat.shiftLeft_shiftRight]
    omega

theorem nearest_small {n : Nat} (hlog : n.log2 ≤ 52) : nearest (.ofNat n) = n := by
  rcases Nat.eq_zero_or_pos n with rfl | hn
  · decide +kernel
  · have hexp : (n.log2 - 52 : Int) = -(52 - n.log2 : Nat) := by omega
    have hlt : n < 2 ^ 53 := (Nat.log2_lt hn.ne').1 (by omega)
    rw [ofNat_small hn hlog, nearest_pack (log2_shiftLeft_full hn hlog) (by omega) (by omega), hexp,
      roundScaled_shiftLeft]
    exact saturate_of_isWhole (by unfold IsWhole leastWhole greatestWhole; omega)

theorem nearest_exact {n : Nat} (hlow : 52 < n.log2) (hhigh : n.log2 ≤ 63) (h : IsExact n) :
    nearest (.ofNat n) = saturate n := by
  obtain ⟨m, hm⟩ := h
  obtain ⟨k, hk⟩ : ∃ k, n.log2 = 52 + k := ⟨n.log2 - 52, by omega⟩
  rw [hk, Nat.add_sub_cancel_left, Nat.mul_comm, ← Nat.shiftLeft_eq] at hm
  have hlog : m.log2 = 52 := by
    rw [← Nat.shiftLeft_shiftRight m k, ← hm, log2_shiftRight]
    omega
  have hround := round_exact hlog (e := k) (by omega) (k + 53)
  rw [Nat.shiftLeft_add, ← hm, show (k - (k + 53 : Nat) : Int) = -53 by omega] at hround
  rw [ofNat_large hlow, hround, nearest_pack hlog (by omega) (by omega)]
  change saturate (m <<< k : Nat) = saturate n
  rw [hm]

/-- A number from 2 ^ 53 on becomes a multiple of the distance that doubles have there. -/
theorem nearest_large {n : Nat} (hlow : 52 < n.log2) (hhigh : n.log2 ≤ 63) :
    ∃ r : Nat, nearest (.ofNat n) = saturate r ∧ 2 ^ (n.log2 - 52) ∣ r := by
  have hlog : (n <<< 53).log2 = n.log2 + 53 := log2_shiftLeft (pos_of_log2 (by omega)) 53
  obtain ⟨m, e, h, hround, hm, hle, hge⟩ :=
    round_shape (m := n <<< 53) (e := -53) (by omega) (by omega)
  obtain ⟨k, rfl⟩ : ∃ k : Nat, e = k := ⟨e.toNat, by omega⟩
  refine ⟨m <<< k, ?_, ?_⟩
  · rw [ofNat_large hlow, hround, nearest_pack hm (by omega) (by omega)]
    rfl
  · rw [Nat.shiftLeft_eq]
    exact Dvd.dvd.mul_left (Nat.pow_dvd_pow 2 (by omega)) m

theorem nearest_greatest : nearest (.ofNat greatestWhole.toNat) = greatestWhole := by
  decide +kernel

theorem nearest_ofNat_eq_iff {n : Nat} (hn : IsWhole n) :
    nearest (.ofNat n) = n ↔ IsExact n ∨ (n : Int) = greatestWhole := by
  rcases Nat.lt_or_ge 52 n.log2 with hlow | hsmall
  · have hhigh : n.log2 ≤ 63 := by
      have hlt : n < 2 ^ 64 := by unfold IsWhole greatestWhole at hn; omega
      have := (Nat.log2_lt (pos_of_log2 (by omega)).ne').2 hlt
      omega
    constructor
    · intro h
      obtain ⟨r, hr, hdvd⟩ := nearest_large hlow hhigh
      -- rounding stops at the greatest number, or it is a multiple that it has come to
      by_cases hgreatest : (n : Int) = greatestWhole
      · exact .inr hgreatest
      · have hrn : r = n := by
          rw [hr] at h
          unfold saturate leastWhole greatestWhole at *
          omega
        exact .inl (hrn ▸ hdvd)
    · rintro (hexact | hgreatest)
      · rw [nearest_exact hlow hhigh hexact, saturate_of_isWhole hn]
      · rw [hgreatest, ← nearest_greatest, ← hgreatest, Int.toNat_natCast]
  · rw [nearest_small hsmall]
    exact ⟨fun _ => .inl (isExact_of_log2_le hsmall), fun _ => rfl⟩

end Double

/-- Whether a whole number comes back from being a double: it is not negative, and it is exact or
the greatest one, at which rounding stops. -/
def Survives (n : Int) : Prop := 0 ≤ n ∧ (IsExact n.toNat ∨ n = greatestWhole)

instance (n : Int) : Decidable (Survives n) := inferInstanceAs (Decidable (_ ∧ _))

theorem survives_of_le {n : Int} (h : 0 ≤ n) (hn : n ≤ 2 ^ 53) : Survives n := by
  refine ⟨h, .inl ?_⟩
  rcases Nat.lt_or_ge n.toNat (2 ^ 53) with hlt | hge
  · apply isExact_of_log2_le
    by_cases h0 : n.toNat = 0
    · rw [h0]
      decide
    · have := (Nat.log2_lt h0).2 hlt
      omega
  · rw [show n.toNat = 2 ^ 53 by omega, IsExact, Nat.log2_two_pow]
    decide

/-- **A whole number survives as a double** exactly if it is not negative and has at most 53
significant bits, or if it is the greatest one. -/
theorem nearestAbove_ofInt_eq_iff {n : Int} (hn : IsWhole n) :
    nearestAbove (.ofInt n) = n ↔ Survives n := by
  cases n with
  | negSucc n =>
    have := nearestAbove_nonneg (.ofInt (.negSucc n))
    exact iff_of_false (by omega) fun h => by have := h.1; omega
  | ofNat n =>
    have hzero : n = 0 → nearest (.ofNat n) = 0 := by
      rintro rfl
      exact Double.nearest_small (n := 0) (by decide)
    have hmax : nearestAbove (.ofNat n) = n ↔ nearest (.ofNat n) = n := by
      unfold nearestAbove
      omega
    have hpos : 0 ≤ Int.ofNat n := Int.natCast_nonneg n
    exact (hmax.trans (Double.nearest_ofNat_eq_iff hn)).trans (iff_and_self.2 fun _ => hpos)

end Skirmish
