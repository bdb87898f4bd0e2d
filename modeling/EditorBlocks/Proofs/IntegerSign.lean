import EditorBlocks.Proofs.FiniteNumbers
import Mathlib

/-!
# The sign of an integer

An integer that is not zero becomes a float of the same sign, however much of
it is rounded away: the float is a normal number, or infinite where it is too
large.  So the float of a negative integer is below zero.
-/

namespace Float.Model.UnpackedFloat

/-- An infinity, or a number of full precision, with the given sign. -/
def Normal (s : Sign) : UnpackedFloat → Prop
  | .infinity t => t = s
  | .finite t m e _ => t = s ∧ 2 ^ 52 ≤ m ∧ m < 2 ^ 53 ∧ -1074 ≤ e
  | .zero _ | .notANumber => False

theorem mantissa_shiftRight (em : ExtendedMantissa) (n : Nat) :
    (em >>> n).mantissa = em.mantissa >>> n := by
  induction n with
  | zero => rfl
  | succ n ih =>
      change ((em >>> n).shiftRightOne).mantissa = _
      rw [ExtendedMantissa.shiftRightOne, ih, Nat.shiftRight_succ]

/-- Rounding adds at most one. -/
theorem roundedMantissa_bounds (em : ExtendedMantissa) :
    em.mantissa ≤ em.roundedMantissa ∧ em.roundedMantissa ≤ em.mantissa + 1 := by
  unfold ExtendedMantissa.roundedMantissa Accuracy.roundToNearestEven
  split
  · omega
  · omega
  · omega
  · omega

theorem shiftRight_bounds {m n : Nat} (hpos : m ≠ 0) (hm : n ≤ m.log2) :
    2 ^ n ≤ m >>> (m.log2 - n) ∧ m >>> (m.log2 - n) < 2 ^ (n + 1) := by
  obtain ⟨hlow, hhigh⟩ := (Nat.log2_eq_iff hpos).1 rfl
  rw [Nat.shiftRight_eq_div_pow]
  constructor
  · rw [Nat.le_div_iff_mul_le (Nat.two_pow_pos _), ← Nat.pow_add]
    rwa [Nat.add_sub_cancel' hm]
  · rw [Nat.div_lt_iff_lt_mul (Nat.two_pow_pos _), ← Nat.pow_add]
    have hsum : n + 1 + (m.log2 - n) = m.log2 + 1 := by omega
    rwa [hsum]

theorem shiftToTargetExponent_eq {m : Nat} {e : Int} (hm : 52 ≤ m.log2)
    (he : -1074 ≤ e + (m.log2 - 52 : Nat)) :
    shiftToTargetExponent .binary64 m e .exact =
      (ExtendedMantissa.ofMantissaAndAccuracy m .exact >>> (m.log2 - 52),
        e + (m.log2 - 52 : Nat)) := by
  have htarget : Format.binary64.targetExponent (totalExponent m e) =
      e + (m.log2 - 52 : Nat) := by
    simp only [Format.targetExponent, totalExponent, Format.mantissaBits, Format.minExponent]
    omega
  have hshift : (e + (m.log2 - 52 : Nat) - e).toNat = m.log2 - 52 := by omega
  simp only [shiftToTargetExponent, shiftToExponent, htarget, hshift]

theorem normal_roundWithAccuracy {s : Sign} {m : Nat} {e : Int} (hm : 52 ≤ m.log2)
    (he : -1074 ≤ e + (m.log2 - 52 : Nat)) :
    Normal s (roundWithAccuracy .binary64 s m e .exact) := by
  have hpos : m ≠ 0 := by
    rintro rfl
    contradiction
  -- The first shift leaves 53 bits, rounding adds at most one to them, and the second
  -- shift takes off a bit where that carried over.
  generalize hfirst : ExtendedMantissa.ofMantissaAndAccuracy m .exact >>> (m.log2 - 52) = em
  have hmantissa : em.mantissa = m >>> (m.log2 - 52) := by
    rw [← hfirst, mantissa_shiftRight]
    rfl
  have hrounded : 2 ^ 52 ≤ em.roundedMantissa := by
    have hlow := (shiftRight_bounds hpos hm).1
    rw [← hmantissa] at hlow
    exact Nat.le_trans hlow (roundedMantissa_bounds em).1
  have hroundedPos : em.roundedMantissa ≠ 0 := by omega
  have hlog : 52 ≤ em.roundedMantissa.log2 := (Nat.le_log2 hroundedPos).2 hrounded
  obtain ⟨hlow, hhigh⟩ := shiftRight_bounds hroundedPos hlog
  have hsecond := shiftToTargetExponent_eq (e := e + (m.log2 - 52 : Nat)) hlog (by omega)
  unfold roundWithAccuracy
  rw [shiftToTargetExponent_eq hm he, hfirst]
  simp only [hsecond, mantissa_shiftRight, ExtendedMantissa.ofMantissaAndAccuracy]
  have hne : em.roundedMantissa >>> (em.roundedMantissa.log2 - 52) ≠ 0 := by omega
  rw [dif_neg hne]
  exact ⟨rfl, hlow, hhigh, by omega⟩

theorem log2_shiftLeft {m : Nat} (hpos : m ≠ 0) (n : Nat) : (m <<< n).log2 = m.log2 + n := by
  obtain ⟨hlow, hhigh⟩ := (Nat.log2_eq_iff hpos).1 rfl
  have htwo : 0 < 2 ^ n := Nat.two_pow_pos n
  rw [Nat.shiftLeft_eq, Nat.log2_eq_iff (Nat.mul_ne_zero hpos (Nat.ne_of_gt htwo)), Nat.pow_add]
  constructor
  · exact Nat.mul_le_mul_right _ hlow
  · rw [Nat.add_right_comm, Nat.pow_add]
    exact Nat.mul_lt_mul_of_pos_right hhigh htwo

theorem normal_mul {m n : Nat} {e f : Int} {hm : 0 < m} {hn : 0 < n}
    (hlog : 52 ≤ (m * n).log2) (he : -1074 ≤ e + f + ((m * n).log2 - 52 : Nat)) :
    Normal .positive (mul .binary64 (.finite .positive m e hm) (.finite .positive n f hn)) :=
  normal_roundWithAccuracy hlog he

theorem normal_ofScientific {m : Nat} (hpos : 0 < m) :
    Normal .positive (ofScientific .binary64 m 0) := by
  have hlog : (m <<< Format.binary64.mantissaBits * 10 ^ (0 : Int).toNat).log2 =
      m.log2 + 53 := by
    rw [Int.toNat_zero, Nat.pow_zero, Nat.mul_one]
    exact log2_shiftLeft (Nat.ne_of_gt hpos) 53
  have hlarge : ¬(0 : Int) > 2 ^ Format.binary64.exponentBits := by decide
  have hsmall : ¬(0 : Int) < -((2 ^ Format.binary64.exponentBits : Int) + m.log2) := by
    change ¬(0 : Int) < -((2048 : Int) + m.log2)
    omega
  unfold ofScientific
  rw [dif_neg (Nat.ne_of_gt hpos), if_neg hlarge, if_neg hsmall, if_pos (Int.le_refl 0)]
  refine normal_mul (m := m <<< Format.binary64.mantissaBits) (n := 10 ^ (0 : Int).toNat)
    ?_ ?_
  · rw [hlog]
    omega
  · rw [hlog]
    change -1074 ≤ -53 + 0 + ((m.log2 + 53 - 52 : Nat) : Int)
    omega

theorem normal_round {s : Sign} {m : Nat} (hpos : 0 < m) (hsmall : m < 2 ^ 53) :
    Normal s (round .binary64 s m 0) := by
  have hlog : m.log2 < 53 := (Nat.log2_lt (by omega)).2 hsmall
  have htarget : Format.binary64.targetExponent (totalExponent m 0) =
      -(52 - m.log2 : Nat) := by
    simp only [Format.targetExponent, totalExponent, Format.mantissaBits, Format.minExponent]
    omega
  have hshift : (0 - -((52 - m.log2 : Nat) : Int)).toNat = 52 - m.log2 := by omega
  have hfull : (m <<< (52 - m.log2)).log2 = 52 := by
    rw [log2_shiftLeft (by omega)]
    omega
  simp only [round, htarget, decreaseExponent, hshift]
  apply normal_roundWithAccuracy
  · omega
  · omega

/-! ## Packing -/

theorem unpack_packedInfinity (s : Sign) :
    unpack .binary64 (packedInfinity .binary64 s) = .infinity s := by
  cases s <;> rfl

theorem normal_unpack_components {s : Sign} {exponent : BitVec 11} {mantissa : BitVec 52}
    (hlow : 0 < exponent.toNat) (hhigh : exponent.toNat < 2047) :
    Normal s (unpack .binary64 (packComponents .binary64 s exponent mantissa)) := by
  have hzero : exponent ≠ 0#11 := by
    rintro rfl
    contradiction
  have hones : exponent ≠ -1#11 := by
    rintro rfl
    contradiction
  unfold unpack
  simp only [unpackMantissa_packComponents, unpackExponent_packComponents,
    unpackSign_packComponents, Sign.ofBitVec_toBitVec]
  rw [if_neg hones, if_neg hzero]
  refine ⟨rfl, ?_, BitVec.isLt _, ?_⟩
  · rw [BitVec.toNat_append]
    exact Nat.left_le_or
  · change -1074 ≤ (exponent.toNat : Int) - (1023 + 52)
    omega

theorem normal_unpack_pack {s : Sign} {u : UnpackedFloat} (hu : Normal s u) :
    Normal s (unpack .binary64 (pack .binary64 u)) := by
  cases u with
  | zero | notANumber => contradiction
  | infinity t =>
      obtain rfl : t = s := hu
      rw [pack, unpack_packedInfinity]
      rfl
  | finite t m e hpos =>
      obtain ⟨rfl, hlow, hhigh, he⟩ := hu
      have hlog : m.log2 + 1 = Format.binary64.mantissaBits := by
        rw [(Nat.log2_eq_iff (by omega)).2 ⟨hlow, hhigh⟩]
        rfl
      simp only [pack, hlog, if_true]
      split
      · rw [unpack_packedInfinity]
        rfl
      -- The exponent is neither that of zero nor that of infinity.
      · next hfits =>
        change ¬2048 ≤ (e + 1023 + 52).toNat + 1 at hfits
        have hexponent : (BitVec.ofNat 11 (e + 1023 + 52).toNat).toNat =
            (e + 1023 + 52).toNat := by
          rw [BitVec.toNat_ofNat]
          omega
        apply normal_unpack_components
        · change 0 < (BitVec.ofNat 11 (e + 1023 + 52).toNat).toNat
          omega
        · change (BitVec.ofNat 11 (e + 1023 + 52).toNat).toNat < 2047
          omega

/-! ## Operations -/

theorem normal_neg {s : Sign} {u : UnpackedFloat} (hu : Normal s u) : Normal (-s) u.neg := by
  cases u with
  | zero | notANumber => contradiction
  | infinity t => exact congrArg Neg.neg hu
  | finite t m e hpos => exact ⟨congrArg Neg.neg hu.1, hu.2⟩

theorem normal_mul_one {u : UnpackedFloat} (hu : Normal .positive u) :
    Normal .positive (mul .binary64 u (.finite .positive (2 ^ 52) (-52) (by decide))) := by
  cases u with
  | zero | notANumber => contradiction
  | infinity t =>
      obtain rfl : t = .positive := hu
      rfl
  | finite t m e hpos =>
      obtain ⟨rfl, hlow, hhigh, he⟩ := hu
      have hlog : (m * 2 ^ 52).log2 = 104 := by
        rw [Nat.log2_eq_iff (by omega)]
        omega
      apply normal_mul
      · omega
      · omega

theorem compare_zero_of_normal {u : UnpackedFloat} (hu : Normal .negative u) (s : Sign) :
    u.compare (.zero s) = some .lt := by
  cases u with
  | zero | notANumber => contradiction
  | infinity t =>
      obtain rfl : t = .negative := hu
      rfl
  | finite t m e hpos =>
      obtain rfl : t = .negative := hu.1
      rfl

end Float.Model.UnpackedFloat

namespace Float

open Model (Format UnpackedFloat)
open Model.UnpackedFloat

/-- The float is infinite or of full precision, with the given sign. -/
def Normal (s : Sign) (x : Float) : Prop := UnpackedFloat.Normal s x.toModel.unpack

theorem normal_ofModel_pack {s : Sign} {u : UnpackedFloat} (hu : UnpackedFloat.Normal s u) :
    Normal s (ofModel (.pack u)) :=
  normal_unpack_pack hu

theorem normal_toFloat {n : UInt64} (hpos : 0 < n.toNat) (hsmall : n.toNat < 2 ^ 53) :
    n.toFloat.Normal .positive := by
  apply normal_ofModel_pack
  have hcompare : compare (n.toNat : Int) 0 = .gt := Int.compare_eq_gt.2 (by omega)
  simp only [ofUInt64, UnpackedFloat.ofNat, UnpackedFloat.ofInt,
    UnpackedFloat.normalize, hcompare, Int.toNat_natCast]
  exact normal_round hpos hsmall

/-- Integers that fit in the mantissa are converted at once, others as decimals. -/
theorem normal_ofNat {n : Nat} (hpos : 0 < n) : (Float.ofNat n).Normal .positive := by
  change (Float.ofScientific n false 0).Normal .positive
  unfold Float.ofScientific
  split
  · next hsmall =>
    have hword : n.toUInt64.toNat = n :=
      UInt64.toNat_ofNat_of_lt' (Nat.lt_of_lt_of_le hsmall.1 (by decide))
    have hfloat : n.toUInt64.toFloat.Normal .positive := by
      apply normal_toFloat
      · omega
      · omega
    have hone : (ofBits 0x3FF0000000000000).toModel.unpack =
        .finite .positive (2 ^ 52) (-52) (by decide) := by rfl
    apply normal_ofModel_pack
    change UnpackedFloat.Normal .positive
      (UnpackedFloat.mul Format.binary64 _ (ofBits 0x3FF0000000000000).toModel.unpack)
    rw [hone]
    exact normal_mul_one hfloat
  · exact normal_ofModel_pack (normal_ofScientific hpos)

theorem ofInt_lt_zero_of_neg {n : Int} (hneg : n < 0) : Float.ofInt n < 0.0 := by
  cases n with
  | ofNat n => exact absurd hneg (Int.not_lt.2 (Int.natCast_nonneg n))
  | negSucc n =>
      have hnormal : (Float.ofInt (.negSucc n)).Normal .negative :=
        normal_ofModel_pack (normal_neg (normal_ofNat n.succ_pos))
      have hzero : (0.0 : Float).toModel.unpack = .zero .positive := by rfl
      rw [lt_iff_compare, hzero]
      exact compare_zero_of_normal hnormal .positive

end Float
