import Mathlib
import Relevance.Numeric.Precision

set_option autoImplicit false

namespace Relevance.Single

open Float.Model Float.Model.UnpackedFloat

structure Regular (mantissa : Nat) (exponent : Int) : Prop where
  positive : 0 < mantissa
  fits : mantissa < 2 ^ 24
  least : -149 ≤ exponent
  leading : 2 ^ 23 ≤ mantissa ∨ exponent = -149

theorem targetExponent_eq (total : Int) :
    Format.binary32.targetExponent total = max (total - 24) (-149) := rfl

/-- A regular pair has the exponent that rounding aims at. -/
theorem Regular.target_eq {mantissa : Nat} {exponent : Int} (regular : Regular mantissa exponent) :
    Format.binary32.targetExponent (totalExponent mantissa exponent) = exponent := by
  have nonzero : mantissa ≠ 0 := Nat.ne_of_gt regular.positive
  have high : mantissa.log2 < 24 := (Nat.log2_lt nonzero).mpr regular.fits
  have low := regular.least
  rw [targetExponent_eq, totalExponent]
  rcases regular.leading with leading | same
  · have enough : 23 ≤ mantissa.log2 := (Nat.le_log2 nonzero).mpr leading
    omega
  · omega

theorem toNat_append_one {places : Nat} (mantissa : BitVec places) :
    (1#1 ++ mantissa).toNat = 2 ^ places + mantissa.toNat := by
  have joined := Nat.two_pow_add_eq_or_of_lt mantissa.isLt 1
  rw [Nat.mul_one] at joined
  rw [BitVec.toNat_append, joined, BitVec.toNat_ofNat, Nat.shiftLeft_eq, Nat.one_mod, Nat.one_mul]

/-- What is unpacked from bits has a regular mantissa and exponent. -/
theorem regular_of_unpack {bits : BitVec Format.binary32.numBits} {sign : Sign} {mantissa : Nat}
    {exponent : Int} {positive : 0 < mantissa}
    (unpacked : UnpackedFloat.unpack .binary32 bits = .finite sign mantissa exponent positive) :
    Regular mantissa exponent := by
  unfold UnpackedFloat.unpack at unpacked
  simp only at unpacked
  split at unpacked
  · split at unpacked <;> cases unpacked
  rename_i finite
  have high := (unpackMantissa bits).isLt
  change (unpackMantissa bits).toNat < 2 ^ 23 at high
  split at unpacked
  · rename_i zero
    split at unpacked
    · cases unpacked
    · rename_i nonzero
      cases unpacked
      refine ⟨positive, by omega, ?_, Or.inr ?_⟩ <;> rw [zero] <;> decide
  · rename_i normal
    have low : 0 < (unpackExponent bits).toNat := BitVec.toNat_pos_of_ne_zero normal
    have same : _ = 2 ^ 23 + _ := toNat_append_one (unpackMantissa bits)
    cases unpacked
    change Regular (1#1 ++ unpackMantissa bits).toNat
      ((unpackExponent bits).toNat - (127 + 23))
    rw [same]
    exact ⟨by omega, by omega, by omega, Or.inl (by omega)⟩

theorem pack_of_lt {sign : Sign} {mantissa : Nat} {positive : 0 < mantissa}
    (small : mantissa < 2 ^ 23) :
    UnpackedFloat.pack .binary32 (.finite sign mantissa (-149) positive) =
      packComponents .binary32 sign 0#8 (BitVec.ofNat 23 mantissa) := by
  have low : mantissa.log2 < 23 := (Nat.log2_lt (Nat.ne_of_gt positive)).mpr small
  have short : ¬ mantissa.log2 + 1 = Format.binary32.mantissaBits := by
    change ¬ mantissa.log2 + 1 = 24
    omega
  unfold UnpackedFloat.pack
  exact (if_neg (by decide)).trans (if_neg short)

theorem pack_of_le {sign : Sign} {mantissa : Nat} {exponent : Int} {positive : 0 < mantissa}
    (regular : Regular mantissa exponent) (leading : 2 ^ 23 ≤ mantissa) (finite : exponent ≤ 104) :
    UnpackedFloat.pack .binary32 (.finite sign mantissa exponent positive) =
      packComponents .binary32 sign (BitVec.ofNat 8 (exponent + 150).toNat)
        (BitVec.ofNat 23 mantissa) := by
  have nonzero : mantissa ≠ 0 := Nat.ne_of_gt positive
  have high : mantissa.log2 < 24 := (Nat.log2_lt nonzero).mpr regular.fits
  have low : 23 ≤ mantissa.log2 := (Nat.le_log2 nonzero).mpr leading
  have full : mantissa.log2 + 1 = Format.binary32.mantissaBits := by
    change mantissa.log2 + 1 = 24
    omega
  have biased : (exponent + Format.binary32.exponentBias +
      Format.binary32.mantissaBitsWithoutImplicit).toNat = (exponent + 150).toNat := by
    change (exponent + 127 + 23).toNat = (exponent + 150).toNat
    omega
  have inside : ¬ 2 ^ Format.binary32.exponentBits ≤ (exponent + 150).toNat + 1 := by
    change ¬ 256 ≤ (exponent + 150).toNat + 1
    have least := regular.least
    omega
  unfold UnpackedFloat.pack
  simp only [biased]
  exact (if_neg inside).trans (if_pos full)

theorem pack_of_gt {sign : Sign} {mantissa : Nat} {exponent : Int} {positive : 0 < mantissa}
    (infinite : 104 < exponent) :
    UnpackedFloat.pack .binary32 (.finite sign mantissa exponent positive) =
      packedInfinity .binary32 sign := by
  have outside : 2 ^ Format.binary32.exponentBits ≤ (exponent + Format.binary32.exponentBias +
      Format.binary32.mantissaBitsWithoutImplicit).toNat + 1 := by
    change 256 ≤ (exponent + 127 + 23).toNat + 1
    omega
  unfold UnpackedFloat.pack
  exact if_pos outside

/-- Packing a regular number and unpacking it again loses nothing. -/
theorem unpack_pack {sign : Sign} {mantissa : Nat} {exponent : Int} {positive : 0 < mantissa}
    (regular : Regular mantissa exponent) (finite : exponent ≤ 104) :
    UnpackedFloat.unpack .binary32
        (UnpackedFloat.pack .binary32 (.finite sign mantissa exponent positive)) =
      .finite sign mantissa exponent positive := by
  have fits := regular.fits
  have least := regular.least
  rcases Nat.lt_or_ge mantissa (2 ^ 23) with small | leading
  · obtain rfl : exponent = -149 := regular.leading.resolve_left (by omega)
    have same : (BitVec.ofNat 23 mantissa).toNat = mantissa := by
      rw [BitVec.toNat_ofNat, Nat.mod_eq_of_lt small]
    have nonzero : BitVec.ofNat 23 mantissa ≠ 0#23 := by
      intro zero
      rw [zero] at same
      exact Nat.ne_of_lt positive same
    rw [pack_of_lt small]
    unfold UnpackedFloat.unpack
    simp only [unpackMantissa_packComponents, unpackExponent_packComponents,
      unpackSign_packComponents, Sign.ofBitVec_toBitVec, nonzero, same]
    rfl
  · have biased : (BitVec.ofNat 8 (exponent + 150).toNat).toNat = (exponent + 150).toNat := by
      rw [BitVec.toNat_ofNat, Nat.mod_eq_of_lt (by omega)]
    have notLast : BitVec.ofNat 8 (exponent + 150).toNat ≠ -1#8 := by
      intro last
      rw [last] at biased
      change 255 = _ at biased
      omega
    have notZero : BitVec.ofNat 8 (exponent + 150).toNat ≠ 0#8 := by
      intro zero
      rw [zero] at biased
      change 0 = _ at biased
      omega
    have same : (1#1 ++ BitVec.ofNat 23 mantissa).toNat = mantissa := by
      rw [toNat_append_one, BitVec.toNat_ofNat]
      omega
    have unbiased : ((exponent + 150).toNat : Int) - (Format.binary32.exponentBias +
        Format.binary32.mantissaBitsWithoutImplicit) = exponent := by
      change ((exponent + 150).toNat : Int) - (127 + 23) = exponent
      omega
    rw [pack_of_le regular leading finite]
    unfold UnpackedFloat.unpack
    simp only [unpackMantissa_packComponents, unpackExponent_packComponents,
      unpackSign_packComponents, Sign.ofBitVec_toBitVec, notLast, notZero, biased, same, unbiased,
      ↓reduceIte]

/-- A single is put together again from what it was unpacked into. -/
theorem ofModel_pack_unpack (x : Float32) : Float32.ofModel (.pack x.toModel.unpack) = x :=
  Float32.ofBits_toBits x

theorem toModel_unpack_pack {sign : Sign} {mantissa : Nat} {exponent : Int}
    {positive : 0 < mantissa} (regular : Regular mantissa exponent) (finite : exponent ≤ 104) :
    (Float32.ofModel (.pack (.finite sign mantissa exponent positive))).toModel.unpack =
      .finite sign mantissa exponent positive :=
  unpack_pack regular finite

theorem unpack_one :
    (1.0 : Float32).toModel.unpack = .finite .positive (2 ^ 23) (-23) (by decide) := by
  have packed : (1.0 : Float32) =
      .ofModel (.pack (.finite .positive (2 ^ 23) (-23) (by decide))) := by decide +kernel
  rw [packed]
  exact toModel_unpack_pack ⟨by decide, by decide, by decide, Or.inl (by decide)⟩ (by decide)

theorem shiftRight_shiftLeft (mantissa places : Nat) :
    (⟨mantissa * 2 ^ places, false, false⟩ : ExtendedMantissa) >>> places =
      ⟨mantissa, false, false⟩ := by
  induction places generalizing mantissa with
  | zero =>
    rw [Nat.pow_zero, Nat.mul_one]
    rfl
  | succ places ih =>
    rw [Nat.pow_succ, ← Nat.mul_assoc, Nat.mul_right_comm]
    change ((⟨mantissa * 2 * 2 ^ places, false, false⟩ : ExtendedMantissa) >>>
      places).shiftRightOne = _
    rw [ih]
    simp [ExtendedMantissa.shiftRightOne]

theorem log2_mul_two_pow {mantissa : Nat} (positive : 0 < mantissa) (places : Nat) :
    (mantissa * 2 ^ places).log2 = mantissa.log2 + places := by
  induction places with
  | zero => rw [Nat.pow_zero, Nat.mul_one, Nat.add_zero]
  | succ places ih =>
    have nonzero : mantissa * 2 ^ places ≠ 0 :=
      Nat.ne_of_gt (Nat.mul_pos positive (Nat.two_pow_pos places))
    rw [Nat.pow_succ, ← Nat.mul_assoc, Nat.mul_comm _ 2, Nat.log2_two_mul nonzero, ih,
      Nat.add_assoc]

/-- A regular number written with a longer mantissa is shifted back. -/
theorem shiftToTargetExponent_of_regular {mantissa : Nat} {exponent : Int}
    (regular : Regular mantissa exponent) (places : Nat) :
    shiftToTargetExponent .binary32 (mantissa * 2 ^ places) (exponent - places) .exact =
      (⟨mantissa, false, false⟩, exponent) := by
  have total : totalExponent (mantissa * 2 ^ places) (exponent - places) =
      totalExponent mantissa exponent := by
    unfold totalExponent
    rw [log2_mul_two_pow regular.positive]
    omega
  have amount : (exponent - (exponent - places)).toNat = places := by omega
  unfold shiftToTargetExponent shiftToExponent
  simp only [total, regular.target_eq, amount, ExtendedMantissa.ofMantissaAndAccuracy,
    shiftRight_shiftLeft, Int.sub_add_cancel]

/-- Rounding gives back a regular number that was written with a longer mantissa. -/
theorem roundWithAccuracy_of_regular (sign : Sign) {mantissa : Nat} {exponent : Int}
    (regular : Regular mantissa exponent) (places : Nat) :
    roundWithAccuracy .binary32 sign (mantissa * 2 ^ places) (exponent - places) .exact =
      .finite sign mantissa exponent regular.positive := by
  have again := shiftToTargetExponent_of_regular regular 0
  rw [Nat.pow_zero, Nat.mul_one, Int.ofNat_zero, Int.sub_zero] at again
  unfold roundWithAccuracy
  simp only [shiftToTargetExponent_of_regular regular places, ExtendedMantissa.roundedMantissa,
    ExtendedMantissa.accuracy, Accuracy.roundToNearestEven, again,
    Nat.ne_of_gt regular.positive, ↓reduceDIte]

theorem regular_of_toModel {x : Float32} {sign : Sign} {mantissa : Nat} {exponent : Int}
    {positive : 0 < mantissa}
    (unpacked : x.toModel.unpack = .finite sign mantissa exponent positive) :
    Regular mantissa exponent :=
  regular_of_unpack unpacked

theorem sign_mul_positive (sign : Sign) : sign * .positive = sign := by
  cases sign <;> rfl

theorem sign_positive_mul (sign : Sign) : .positive * sign = sign := by
  cases sign <;> rfl

/-- Multiplying by one changes nothing, not even the sign of a zero. -/
@[simp] theorem mul_one (x : Float32) : x * 1.0 = x := by
  change Float32.ofModel (.pack (.mul .binary32 x.toModel.unpack (1.0 : Float32).toModel.unpack)) = x
  refine Eq.trans ?_ (ofModel_pack_unpack x)
  congr 2
  rw [unpack_one]
  cases unpacked : x.toModel.unpack with
  | infinity sign => rw [UnpackedFloat.mul, sign_mul_positive]
  | notANumber => rfl
  | zero sign => rw [UnpackedFloat.mul, sign_mul_positive]
  | finite sign mantissa exponent positive =>
    rw [UnpackedFloat.mul, sign_mul_positive]
    exact roundWithAccuracy_of_regular sign (regular_of_toModel unpacked) 23

@[simp] theorem one_mul (x : Float32) : 1.0 * x = x := by
  change Float32.ofModel (.pack (.mul .binary32 (1.0 : Float32).toModel.unpack x.toModel.unpack)) = x
  refine Eq.trans ?_ (ofModel_pack_unpack x)
  congr 2
  rw [unpack_one]
  cases unpacked : x.toModel.unpack with
  | infinity sign => rw [UnpackedFloat.mul, sign_positive_mul]
  | notANumber => rfl
  | zero sign => rw [UnpackedFloat.mul, sign_positive_mul]
  | finite sign mantissa exponent positive =>
    rw [UnpackedFloat.mul, sign_positive_mul, Nat.mul_comm, Int.add_comm]
    exact roundWithAccuracy_of_regular sign (regular_of_toModel unpacked) 23

/-- Only one compares equal to one. -/
theorem eq_one_of_beq {x : Float32} (equal : (x == 1.0) = true) : x = 1.0 := by
  obtain ⟨-, -, same | ⟨-, zero⟩ | ⟨-, zero⟩⟩ := Float32.beq_iff_ne_nan_and_eq.mp equal
  · exact same
  · exact absurd zero (by decide +kernel)
  · exact absurd zero (by decide +kernel)

end Relevance.Single
