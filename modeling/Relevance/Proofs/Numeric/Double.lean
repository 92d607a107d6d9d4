import Relevance.Proofs.Numeric.Positive

set_option autoImplicit false

namespace Relevance.Double

open Float.Model Float.Model.UnpackedFloat

/-- The mantissas and exponents of doubles that are neither tiny nor infinite. -/
structure Normal (mantissa : Nat) (exponent : Int) : Prop where
  leading : 2 ^ 52 ≤ mantissa
  fits : mantissa < 2 ^ 53
  least : -1074 ≤ exponent
  finite : exponent ≤ 971

theorem Normal.positive {mantissa : Nat} {exponent : Int} (normal : Normal mantissa exponent) :
    0 < mantissa :=
  Nat.lt_of_lt_of_le (by decide) normal.leading

theorem Normal.log2_eq {mantissa : Nat} {exponent : Int} (normal : Normal mantissa exponent) :
    mantissa.log2 = 52 :=
  (Nat.log2_eq_iff (Nat.ne_of_gt normal.positive)).mpr ⟨normal.leading, normal.fits⟩

theorem targetExponent_eq (total : Int) :
    Format.binary64.targetExponent total = max (total - 53) (-1074) := rfl

/-- Packing a normal number and unpacking it again loses nothing. -/
theorem unpack_pack {sign : Sign} {mantissa : Nat} {exponent : Int} {positive : 0 < mantissa}
    (normal : Normal mantissa exponent) :
    UnpackedFloat.unpack .binary64
        (UnpackedFloat.pack .binary64 (.finite sign mantissa exponent positive)) =
      .finite sign mantissa exponent positive := by
  obtain ⟨leading, fits, least, finite⟩ := id normal
  obtain ⟨stored, same⟩ : ∃ stored, stored = (exponent + 1075).toNat := ⟨_, rfl⟩
  have biased : (exponent + Format.binary64.exponentBias +
      Format.binary64.mantissaBitsWithoutImplicit).toNat = stored := by
    change (exponent + 1023 + 52).toNat = stored
    omega
  have inside : ¬ 2 ^ Format.binary64.exponentBits ≤ stored + 1 := by
    change ¬ 2048 ≤ stored + 1
    omega
  have full : mantissa.log2 + 1 = Format.binary64.mantissaBits := by
    rw [normal.log2_eq]
    rfl
  have packed : UnpackedFloat.pack .binary64 (.finite sign mantissa exponent positive) =
      packComponents .binary64 sign (BitVec.ofNat 11 stored) (BitVec.ofNat 52 mantissa) := by
    unfold UnpackedFloat.pack
    simp only [biased]
    exact (if_neg inside).trans (if_pos full)
  have kept : (BitVec.ofNat 11 stored).toNat = stored := by
    rw [BitVec.toNat_ofNat, Nat.mod_eq_of_lt (by omega)]
  have notLast : BitVec.ofNat 11 stored ≠ -1#11 := by
    intro last
    rw [last] at kept
    change 2047 = _ at kept
    omega
  have notZero : BitVec.ofNat 11 stored ≠ 0#11 := by
    intro zero
    rw [zero] at kept
    change 0 = _ at kept
    omega
  have restored : (1#1 ++ BitVec.ofNat 52 mantissa).toNat = mantissa := by
    rw [Single.toNat_append_one, BitVec.toNat_ofNat]
    omega
  have unbiased : (stored : Int) - (Format.binary64.exponentBias +
      Format.binary64.mantissaBitsWithoutImplicit) = exponent := by
    change (stored : Int) - (1023 + 52) = exponent
    omega
  rw [packed]
  unfold UnpackedFloat.unpack
  simp only [unpackMantissa_packComponents, unpackExponent_packComponents,
    unpackSign_packComponents, Sign.ofBitVec_toBitVec, notLast, notZero, kept, restored, unbiased,
    ↓reduceIte]

theorem toModel_unpack_pack {sign : Sign} {mantissa : Nat} {exponent : Int}
    {positive : 0 < mantissa} (normal : Normal mantissa exponent) :
    (Float.ofModel (.pack (.finite sign mantissa exponent positive))).toModel.unpack =
      .finite sign mantissa exponent positive :=
  unpack_pack normal

theorem unpack_one :
    (1.0 : Float).toModel.unpack = .finite .positive (2 ^ 52) (-52) (by decide) := by
  have packed : (1.0 : Float) =
      .ofModel (.pack (.finite .positive (2 ^ 52) (-52) (by decide))) := by decide +kernel
  rw [packed]
  exact toModel_unpack_pack ⟨by decide, by decide, by decide, by decide⟩

def Below (mantissa : Nat) (exponent : Int) (other : Nat) (higher : Int) : Prop :=
  exponent < higher ∨ exponent = higher ∧ mantissa ≤ other

theorem le_finite {mantissa other : Nat} {exponent higher : Int} {positive : 0 < mantissa}
    {above : 0 < other} (below : Below mantissa exponent other higher) :
    UnpackedFloat.le (.finite .positive mantissa exponent positive)
      (.finite .positive other higher above) = true := by
  unfold UnpackedFloat.le UnpackedFloat.compare
  rw [Option.any_some]
  rcases below with less | ⟨rfl, order⟩
  · rw [Int.compare_eq_lt.mpr less]
    rfl
  · rw [Int.compare_eq_eq.mpr rfl, Ordering.eq_then, Nat.isLE_compare]
    exact order

/-- A mantissa and its residual bits as one number. -/
def weight (extended : ExtendedMantissa) : Nat :=
  4 * extended.mantissa + 2 * extended.roundBit.toNat + extended.stickyBit.toNat

theorem weight_shiftRightOne (extended : ExtendedMantissa) :
    weight extended.shiftRightOne = 2 * (weight extended / 4) + min 1 (weight extended % 4) := by
  obtain ⟨mantissa, round, sticky⟩ := extended
  have parity : (mantissa % 2 != 0).toNat = mantissa % 2 := by
    rcases Nat.mod_two_eq_zero_or_one mantissa with even | odd
    · rw [even]; rfl
    · rw [odd]; rfl
  simp only [weight, ExtendedMantissa.shiftRightOne, parity]
  cases round <;> cases sticky <;> simp <;> omega

/-- Shifting keeps the order of mantissas, residual bits included. -/
theorem weight_shiftRight_mono {extended other : ExtendedMantissa}
    (order : weight extended ≤ weight other) (places : Nat) :
    weight (extended >>> places) ≤ weight (other >>> places) := by
  induction places with
  | zero => exact order
  | succ places ih =>
    change weight (extended >>> places).shiftRightOne ≤ weight (other >>> places).shiftRightOne
    rw [weight_shiftRightOne, weight_shiftRightOne]
    omega

theorem roundedMantissa_mono {extended other : ExtendedMantissa}
    (order : weight extended ≤ weight other) :
    extended.roundedMantissa ≤ other.roundedMantissa := by
  obtain ⟨mantissa, round, sticky⟩ := extended
  obtain ⟨greater, up, rest⟩ := other
  simp only [weight] at order
  cases round <;> cases sticky <;> cases up <;> cases rest <;>
    simp [ExtendedMantissa.roundedMantissa, ExtendedMantissa.accuracy,
      Accuracy.roundToNearestEven] at order ⊢ <;> omega

/-- What becomes of a rounded mantissa: it stays if it fits, and a carry out of its places moves
the exponent up by one. -/
inductive Settles (rounded : Nat) (exponent : Int) : Nat → Int → Prop
  | fits (leading : 2 ^ 52 ≤ rounded) (short : rounded < 2 ^ 53) :
    Settles rounded exponent rounded exponent
  | carry (full : rounded = 2 ^ 53) : Settles rounded exponent (2 ^ 52) (exponent + 1)

theorem Settles.normal {rounded mantissa : Nat} {exponent last : Int}
    (settles : Settles rounded exponent mantissa last) (least : -1074 ≤ exponent)
    (finite : exponent ≤ 970) : Normal mantissa last := by
  cases settles with
  | fits leading short => exact ⟨leading, short, least, by omega⟩
  | carry => exact ⟨Nat.le_refl _, by decide, by omega, by omega⟩

/-- A larger mantissa, or the same with a higher exponent, settles no lower. -/
theorem Settles.mono {rounded mantissa more larger : Nat} {exponent last higher final : Int}
    (first : Settles rounded exponent mantissa last) (second : Settles more higher larger final)
    (below : Below rounded exponent more higher) : Below mantissa last larger final := by
  unfold Below at below ⊢
  cases first <;> cases second <;> omega

theorem shiftToTargetExponent_of_log2 {mantissa places : Nat} {exponent : Int}
    (accuracy : Accuracy) (long : mantissa.log2 = 52 + places) (least : -1074 ≤ exponent) :
    shiftToTargetExponent .binary64 mantissa exponent accuracy =
      (ExtendedMantissa.ofMantissaAndAccuracy mantissa accuracy >>> places, exponent + places) := by
  have amount : (Format.binary64.targetExponent (totalExponent mantissa exponent) -
      exponent).toNat = places := by
    rw [targetExponent_eq, totalExponent]
    omega
  unfold shiftToTargetExponent shiftToExponent
  simp only [amount]

/-- The mantissa before rounding has all its places, so rounding leaves a full one or carries. -/
theorem rounded_bounds {mantissa places : Nat} (accuracy : Accuracy)
    (long : mantissa.log2 = 52 + places) :
    2 ^ 52 ≤ (ExtendedMantissa.ofMantissaAndAccuracy mantissa accuracy >>> places).roundedMantissa ∧
      (ExtendedMantissa.ofMantissaAndAccuracy mantissa accuracy >>> places).roundedMantissa ≤
        2 ^ 53 := by
  have nonzero : mantissa ≠ 0 := by
    rintro rfl
    rw [Nat.log2_zero] at long
    omega
  obtain ⟨low, high⟩ := (Nat.log2_eq_iff nonzero).mp long
  rw [Nat.pow_add] at low
  rw [Nat.add_right_comm, Nat.pow_add] at high
  have first : 2 ^ 52 ≤ mantissa / 2 ^ places :=
    (Nat.le_div_iff_mul_le (Nat.two_pow_pos places)).mpr low
  have short : mantissa / 2 ^ places < 2 ^ 53 :=
    (Nat.div_lt_iff_lt_mul (Nat.two_pow_pos places)).mpr high
  have bounds := Single.roundedMantissa_bounds
    (ExtendedMantissa.ofMantissaAndAccuracy mantissa accuracy >>> places)
  rw [Single.shiftRight_mantissa, Single.mantissa_ofMantissaAndAccuracy] at bounds
  omega

/-- Rounding a mantissa with all its places settles it. -/
theorem roundWithAccuracy_settles (sign : Sign) {mantissa places : Nat} (exponent : Int)
    (accuracy : Accuracy) (long : mantissa.log2 = 52 + places) (least : -1074 ≤ exponent) :
    ∃ (rounded : Nat) (last : Int) (positive : 0 < rounded),
      roundWithAccuracy .binary64 sign mantissa exponent accuracy =
        .finite sign rounded last positive ∧
      Settles (ExtendedMantissa.ofMantissaAndAccuracy mantissa accuracy >>> places).roundedMantissa
        (exponent + places) rounded last := by
  obtain ⟨low, high⟩ := rounded_bounds accuracy long
  have shifted := shiftToTargetExponent_of_log2 accuracy long least
  rcases Nat.lt_or_eq_of_le high with short | full
  · have positive := Nat.lt_of_lt_of_le (Nat.two_pow_pos 52) low
    have same := (Nat.log2_eq_iff (Nat.ne_of_gt positive)).mpr ⟨low, short⟩
    have settled := shiftToTargetExponent_of_log2 .exact (same.trans (Nat.add_zero 52).symm)
      (show -1074 ≤ exponent + places by omega)
    rw [Int.ofNat_zero, Int.add_zero] at settled
    exact ⟨_, _, positive, Single.roundWithAccuracy_of_shift shifted settled positive, .fits low short⟩
  · have log2_full : (2 ^ 53).log2 = 52 + 1 := Nat.log2_two_pow
    have settled := shiftToTargetExponent_of_log2 .exact log2_full
      (show -1074 ≤ exponent + places by omega)
    refine ⟨_, _, by decide, Single.roundWithAccuracy_of_shift shifted ?_ (by decide), .carry full⟩
    rw [full, settled]
    rfl

/-- The rounded mantissa of a count, which may still carry. -/
def countMantissa (n : Nat) : Nat :=
  (ExtendedMantissa.ofMantissaAndAccuracy (n * 2 ^ (52 - n.log2)) .exact >>>
    (n.log2 - 52)).roundedMantissa

theorem log2_le_log2 {small large : Nat} (positive : 0 < small) (order : small ≤ large) :
    small.log2 ≤ large.log2 :=
  (Nat.le_log2 (Nat.ne_of_gt (Nat.lt_of_lt_of_le positive order))).mpr
    ((Nat.log2_self_le (Nat.ne_of_gt positive)).trans order)

/-- Counts keep their order until carries are settled. -/
theorem below_of_le {small large : Nat} (positive : 0 < small) (order : small ≤ large) :
    Below (countMantissa small) ((small.log2 : Int) - 52) (countMantissa large)
      ((large.log2 : Int) - 52) := by
  rcases Nat.lt_or_eq_of_le (log2_le_log2 positive order) with less | same
  · exact Or.inl (by omega)
  · refine Or.inr ⟨by rw [same], ?_⟩
    unfold countMantissa
    rw [same]
    refine roundedMantissa_mono (weight_shiftRight_mono ?_ _)
    have longer := Nat.mul_le_mul_right (2 ^ (52 - large.log2)) order
    simp only [weight, ExtendedMantissa.ofMantissaAndAccuracy, Bool.toNat_false]
    omega

/-- A count as a double is positive and settles its rounded mantissa. -/
theorem unpack_countToDouble {n : Nat} (positive : 0 < n) (fits : n < UInt64.size) :
    ∃ (mantissa : Nat) (exponent : Int) (above : 0 < mantissa),
      (countToDouble n).toModel.unpack = .finite .positive mantissa exponent above ∧
      Settles (countMantissa n) ((n.log2 : Int) - 52) mantissa exponent := by
  have short : n.log2 < 64 := (Nat.log2_lt (Nat.ne_of_gt positive)).mpr fits
  have count : (UInt64.ofNat n).toNat = n := UInt64.toNat_ofNat_of_lt fits
  have above : compare (n : Int) 0 = .gt := Int.compare_eq_gt.mpr (by omega)
  have target : Format.binary64.targetExponent (totalExponent n 0) = (n.log2 : Int) - 52 := by
    rw [targetExponent_eq, totalExponent]
    omega
  have amount : (0 - ((n.log2 : Int) - 52)).toNat = 52 - n.log2 := by omega
  have long : (n * 2 ^ (52 - n.log2)).log2 = 52 + (n.log2 - 52) := by
    rw [Single.log2_mul_two_pow positive]
    omega
  obtain ⟨mantissa, exponent, kept, rounded, settles⟩ := roundWithAccuracy_settles .positive
    (0 - ((52 - n.log2 : Nat) : Int)) .exact long (by omega)
  rw [show (0 : Int) - ((52 - n.log2 : Nat) : Int) + ((n.log2 - 52 : Nat) : Int) = n.log2 - 52 by
    omega] at settles
  refine ⟨mantissa, exponent, kept, ?_, settles⟩
  change (Float.ofModel (.pack (.normalize .binary64 (UInt64.ofNat n).toNat 0
    .positive))).toModel.unpack = _
  have normalized : UnpackedFloat.normalize .binary64 (n : Int) 0 .positive =
      .finite .positive mantissa exponent kept := by
    unfold UnpackedFloat.normalize UnpackedFloat.round decreaseExponent
    simp only [above, Int.toNat_natCast, target, amount, Nat.shiftLeft_eq, rounded]
  rw [count, normalized]
  exact toModel_unpack_pack (settles.normal (by omega) (by omega))

theorem divCore_eq {mantissa other : Nat} {exponent lower : Int}
    (numerator : Normal mantissa exponent) (denominator : Normal other lower)
    (order : lower ≤ exponent) :
    divCore .binary64 mantissa exponent other lower = (mantissa * 2 ^ 53 / other,
      exponent - lower - 53, accuracyOfFraction (mantissa * 2 ^ 53 % other) other) := by
  have target : Format.binary64.targetExponent
      (totalExponent mantissa exponent - totalExponent other lower) = exponent - lower - 53 := by
    rw [targetExponent_eq, totalExponent, totalExponent, numerator.log2_eq, denominator.log2_eq]
    omega
  have amount : (exponent - lower - (exponent - lower - 53)).toNat = 53 := by omega
  have least : min (exponent - lower) (exponent - lower - 53) = exponent - lower - 53 := by omega
  unfold divCore
  simp only [target, least, amount, Nat.shiftLeft_eq]

/-- The quotient has 53 places, and one more unless the mantissa is the smaller one. -/
theorem log2_quotient {mantissa other : Nat} {exponent lower : Int}
    (numerator : Normal mantissa exponent) (denominator : Normal other lower) :
    (mantissa * 2 ^ 53 / other).log2 = 52 + if other ≤ mantissa then 1 else 0 := by
  obtain ⟨leading, fits, -, -⟩ := numerator
  have above : 0 < other := denominator.positive
  obtain ⟨low, high, -, -⟩ := denominator
  split
  · have least : 2 ^ 53 ≤ mantissa * 2 ^ 53 / other :=
      (Nat.le_div_iff_mul_le above).mpr (by omega)
    have most : mantissa * 2 ^ 53 / other < 2 ^ 54 :=
      (Nat.div_lt_iff_lt_mul above).mpr (by omega)
    exact (Nat.log2_eq_iff (by omega)).mpr ⟨least, most⟩
  · have least : 2 ^ 52 ≤ mantissa * 2 ^ 53 / other :=
      (Nat.le_div_iff_mul_le above).mpr (by omega)
    have most : mantissa * 2 ^ 53 / other < 2 ^ 53 :=
      (Nat.div_lt_iff_lt_mul above).mpr (by omega)
    exact (Nat.log2_eq_iff (by omega)).mpr ⟨least, most⟩

/-- A number divided by one that is no larger is at least one. -/
theorem one_below_div {mantissa other : Nat} {exponent lower : Int} (positive : 0 < mantissa)
    (above : 0 < other) (numerator : Normal mantissa exponent)
    (denominator : Normal other lower) (order : Below other lower mantissa exponent)
    (near : exponent - lower ≤ 970) :
    ∃ (quotient : Nat) (last : Int) (kept : 0 < quotient),
      UnpackedFloat.div .binary64 (.finite .positive mantissa exponent positive)
        (.finite .positive other lower above) = .finite .positive quotient last kept ∧
      Normal quotient last ∧ Below (2 ^ 52) (-52) quotient last := by
  obtain ⟨places, counted⟩ : ∃ places, places = if other ≤ mantissa then 1 else 0 := ⟨_, rfl⟩
  have long := log2_quotient numerator denominator
  rw [← counted] at long
  -- a smaller mantissa goes with a higher exponent, which makes up for the place
  have enough : lower ≤ exponent ∧ 1 ≤ exponent - lower + places ∧ places ≤ 1 := by
    rcases order with less | ⟨same, smaller⟩
    · split at counted <;> omega
    · rw [if_pos smaller] at counted
      omega
  obtain ⟨ordered, high, low⟩ := enough
  obtain ⟨quotient, last, kept, rounded, settles⟩ := roundWithAccuracy_settles .positive
    (exponent - lower - 53) (accuracyOfFraction (mantissa * 2 ^ 53 % other) other) long (by omega)
  have bounds := rounded_bounds (accuracyOfFraction (mantissa * 2 ^ 53 % other) other) long
  refine ⟨quotient, last, kept, ?_, settles.normal (by omega) (by omega), ?_⟩
  · rw [UnpackedFloat.div]
    simp only [divCore_eq numerator denominator ordered]
    exact rounded
  · refine (Settles.fits (Nat.le_refl _) (by decide)).mono settles ?_
    unfold Below
    omega

theorem le_iff (x y : Float) :
    x ≤ y ↔ UnpackedFloat.le x.toModel.unpack y.toModel.unpack = true :=
  decide_eq_true_iff

/-- A count divided by one that is no larger is at least one, rounding included. -/
theorem one_le_quotient {small large : Nat} (positive : 0 < small) (order : small ≤ large)
    (fits : large < UInt64.size) : (1.0 : Float) ≤ countToDouble large / countToDouble small := by
  have short : large.log2 < 64 := (Nat.log2_lt (by omega)).mpr fits
  have shorter := log2_le_log2 positive order
  obtain ⟨mantissa, exponent, above, numerator, carried⟩ :=
    unpack_countToDouble (Nat.lt_of_lt_of_le positive order) fits
  obtain ⟨other, lower, below, denominator, settled⟩ :=
    unpack_countToDouble positive (Nat.lt_of_le_of_lt order fits)
  have ordered := settled.mono carried (below_of_le positive order)
  have near : exponent - lower ≤ 970 := by
    cases carried <;> cases settled <;> omega
  obtain ⟨quotient, last, kept, divided, normal, reached⟩ :=
    one_below_div above below (carried.normal (by omega) (by omega))
      (settled.normal (by omega) (by omega)) ordered near
  have unpacked : (countToDouble large / countToDouble small).toModel.unpack =
      .finite .positive quotient last kept := by
    change (Float.ofModel (.pack (.div .binary64 (countToDouble large).toModel.unpack
      (countToDouble small).toModel.unpack))).toModel.unpack = _
    rw [numerator, denominator, divided]
    exact toModel_unpack_pack normal
  rw [le_iff, unpack_one, unpacked]
  exact le_finite reached

end Relevance.Double
