import Relevance.Proofs.Numeric.Single

set_option autoImplicit false

namespace Relevance.Single

open Float.Model Float.Model.UnpackedFloat

inductive IsPositive : UnpackedFloat → Prop
  | infinity : IsPositive (.infinity .positive)
  | finite {mantissa : Nat} {exponent : Int} {positive : 0 < mantissa} :
    IsPositive (.finite .positive mantissa exponent positive)

/-- A number above zero, which may be infinite. -/
def Positive (x : Float32) : Prop :=
  IsPositive x.toModel.unpack

theorem unpack_zero : (0.0 : Float32).toModel.unpack = .zero .positive := by
  have packed : (0.0 : Float32) = .ofModel (.pack (.zero .positive)) := by decide +kernel
  rw [packed]
  rfl

theorem zero_le_zero : (0.0 : Float32) ≤ 0.0 := by decide +kernel

theorem countToSingle_zero : countToSingle 0 = 0.0 := by decide +kernel

theorem le_iff (x y : Float32) :
    x ≤ y ↔ UnpackedFloat.le x.toModel.unpack y.toModel.unpack = true :=
  decide_eq_true_iff

/-- Positive numbers are not below or equal to zero. -/
theorem Positive.not_le_zero {x : Float32} (positive : Positive x) : ¬ x ≤ 0.0 := by
  rw [le_iff, unpack_zero]
  cases unpacked : x.toModel.unpack with
  | infinity sign =>
    rw [Positive, unpacked] at positive
    cases positive
    exact nofun
  | finite sign mantissa exponent bound =>
    rw [Positive, unpacked] at positive
    cases positive
    exact nofun
  | _ =>
    rw [Positive, unpacked] at positive
    cases positive

theorem zero_lt_iff (x : Float32) : 0.0 < x ↔ Positive x := by
  have compared : 0.0 < x ↔ (0.0 : Float32).toModel.unpack.compare x.toModel.unpack = some .lt :=
    decide_eq_true_iff.trans beq_iff_eq
  rw [compared, unpack_zero, Positive]
  generalize x.toModel.unpack = unpacked
  constructor
  · intro less
    cases unpacked with
    | notANumber => cases less
    | zero sign => cases less
    | infinity sign =>
      cases sign with
      | negative => cases less
      | positive => exact .infinity
    | finite sign mantissa exponent positive =>
      cases sign with
      | negative => cases less
      | positive => exact .finite
  · intro positive
    cases positive <;> rfl

theorem positive_infinity : Positive (.ofModel (.pack (.infinity .positive))) := by
  have unpacked : (Float32.ofModel (.pack (.infinity .positive))).toModel.unpack =
      .infinity .positive := rfl
  rw [Positive, unpacked]
  exact .infinity

/-- A regular number stays positive when it is packed, also if it is too large for a single. -/
theorem positive_pack {mantissa : Nat} {exponent : Int} (regular : Regular mantissa exponent) :
    Positive (.ofModel (.pack (.finite .positive mantissa exponent regular.positive))) := by
  by_cases finite : exponent ≤ 104
  · rw [Positive, toModel_unpack_pack regular finite]
    exact .finite
  · have infinite : Float32.Model.pack (.finite .positive mantissa exponent regular.positive) =
        Float32.Model.pack (.infinity .positive) := by
      unfold Float32.Model.pack
      simp only [pack_of_gt (Int.lt_of_not_ge finite)]
      rfl
    rw [infinite]
    exact positive_infinity

theorem shiftRight_mantissa (extended : ExtendedMantissa) (places : Nat) :
    (extended >>> places).mantissa = extended.mantissa / 2 ^ places := by
  induction places with
  | zero =>
    rw [Nat.pow_zero, Nat.div_one]
    rfl
  | succ places ih =>
    change (extended >>> places).mantissa / 2 = _
    rw [ih, Nat.div_div_eq_div_mul, Nat.pow_succ]

theorem roundToNearestEven_bounds (mantissa : Nat) (accuracy : Accuracy) :
    mantissa ≤ accuracy.roundToNearestEven mantissa ∧
      accuracy.roundToNearestEven mantissa ≤ mantissa + 1 := by
  cases accuracy with
  | exact => exact ⟨Nat.le_refl _, Nat.le_succ _⟩
  | inexact order => cases order <;> simp only [Accuracy.roundToNearestEven] <;> omega

theorem roundedMantissa_bounds (extended : ExtendedMantissa) :
    extended.mantissa ≤ extended.roundedMantissa ∧
      extended.roundedMantissa ≤ extended.mantissa + 1 :=
  roundToNearestEven_bounds extended.mantissa extended.accuracy

theorem roundWithAccuracy_of_shift {format : Format} {sign : Sign} {mantissa : Nat}
    {exponent target last : Int} {accuracy : Accuracy} {extended : ExtendedMantissa} {rounded : Nat}
    (shifted : shiftToTargetExponent format mantissa exponent accuracy = (extended, target))
    (settled : shiftToTargetExponent format extended.roundedMantissa target .exact =
      (⟨rounded, false, false⟩, last)) (positive : 0 < rounded) :
    roundWithAccuracy format sign mantissa exponent accuracy =
      .finite sign rounded last positive := by
  unfold roundWithAccuracy
  simp only [shifted, settled, Nat.ne_of_gt positive, ↓reduceDIte]

theorem mantissa_ofMantissaAndAccuracy (mantissa : Nat) (accuracy : Accuracy) :
    (ExtendedMantissa.ofMantissaAndAccuracy mantissa accuracy).mantissa = mantissa := by
  unfold ExtendedMantissa.ofMantissaAndAccuracy
  split <;> rfl

/-- Rounding a mantissa with all its places gives a regular number. A carry out of its places moves
the exponent up by one. -/
theorem roundWithAccuracy_of_long (sign : Sign) {mantissa : Nat} {exponent : Int}
    (accuracy : Accuracy) (long : 2 ^ 23 ≤ mantissa) (least : -149 ≤ exponent) :
    ∃ (rounded : Nat) (last : Int) (regular : Regular rounded last),
      roundWithAccuracy .binary32 sign mantissa exponent accuracy =
        .finite sign rounded last regular.positive ∧ last ≤ exponent + mantissa.log2 - 22 := by
  have nonzero : mantissa ≠ 0 := by omega
  have enough : 23 ≤ mantissa.log2 := (Nat.le_log2 nonzero).mpr long
  obtain ⟨places, same⟩ : ∃ places, mantissa.log2 = 23 + places := ⟨mantissa.log2 - 23, by omega⟩
  have low : 2 ^ 23 * 2 ^ places ≤ mantissa := by
    rw [← Nat.pow_add, ← same]
    exact Nat.log2_self_le nonzero
  have high : mantissa < 2 ^ 24 * 2 ^ places := by
    rw [← Nat.pow_add, ← Nat.log2_lt nonzero]
    omega
  have target : Format.binary32.targetExponent (totalExponent mantissa exponent) =
      exponent + places := by
    rw [targetExponent_eq, totalExponent]
    omega
  have amount : (exponent + places - exponent).toNat = places := by omega
  obtain ⟨extended, started⟩ : ∃ extended,
      extended = ExtendedMantissa.ofMantissaAndAccuracy mantissa accuracy := ⟨_, rfl⟩
  have shifted : shiftToTargetExponent .binary32 mantissa exponent accuracy =
      (extended >>> places, exponent + places) := by
    unfold shiftToTargetExponent shiftToExponent
    simp only [target, amount, started]
  have whole : extended.mantissa = mantissa := by
    rw [started, mantissa_ofMantissaAndAccuracy]
  have first : 2 ^ 23 ≤ mantissa / 2 ^ places :=
    (Nat.le_div_iff_mul_le (Nat.two_pow_pos places)).mpr low
  have short : mantissa / 2 ^ places < 2 ^ 24 :=
    (Nat.div_lt_iff_lt_mul (Nat.two_pow_pos places)).mpr high
  obtain ⟨rounded, reached⟩ : ∃ rounded, rounded = (extended >>> places).roundedMantissa := ⟨_, rfl⟩
  obtain ⟨lower, upper⟩ : mantissa / 2 ^ places ≤ rounded ∧ rounded ≤ mantissa / 2 ^ places + 1 := by
    have bounds := roundedMantissa_bounds (extended >>> places)
    rwa [shiftRight_mantissa, whole, ← reached] at bounds
  by_cases carry : rounded = 2 ^ 24
  · have regular : Regular (2 ^ 23) (exponent + places + 1) :=
      ⟨by decide, by decide, by omega, Or.inl (Nat.le_refl _)⟩
    have settled := shiftToTargetExponent_of_regular regular 1
    rw [show exponent + places + 1 - (1 : Nat) = exponent + places by omega] at settled
    refine ⟨_, _, regular, roundWithAccuracy_of_shift shifted ?_ regular.positive, by omega⟩
    rw [← reached, carry]
    exact settled
  · have regular : Regular rounded (exponent + places) :=
      ⟨by omega, by omega, by omega, Or.inl (by omega)⟩
    have settled := shiftToTargetExponent_of_regular regular 0
    rw [Nat.pow_zero, Nat.mul_one, Int.ofNat_zero, Int.sub_zero] at settled
    refine ⟨_, _, regular, roundWithAccuracy_of_shift shifted ?_ regular.positive, by omega⟩
    rw [← reached]
    exact settled

/-- Rounding gives back a regular number, also one that was written with a longer mantissa. -/
theorem round_of_regular (sign : Sign) {mantissa : Nat} {exponent : Int}
    (regular : Regular mantissa exponent) (places : Nat) :
    UnpackedFloat.round .binary32 sign (mantissa * 2 ^ places) (exponent - places) =
      .finite sign mantissa exponent regular.positive := by
  have total : totalExponent (mantissa * 2 ^ places) (exponent - places) =
      totalExponent mantissa exponent := by
    unfold totalExponent
    rw [log2_mul_two_pow regular.positive]
    omega
  have amount : (exponent - places - exponent).toNat = 0 := by omega
  unfold UnpackedFloat.round decreaseExponent
  simp only [total, regular.target_eq, amount, Nat.shiftLeft_zero, Int.ofNat_zero, Int.sub_zero]
  exact roundWithAccuracy_of_regular sign regular places

/-- A mantissa with no more places than singles have is kept, written with as many as there are. -/
theorem round_of_short (sign : Sign) {mantissa : Nat} {exponent : Int} (positive : 0 < mantissa)
    (short : mantissa < 2 ^ 24) (least : -149 ≤ exponent) :
    ∃ (places : Nat) (regular : Regular (mantissa * 2 ^ places) (exponent - places)),
      UnpackedFloat.round .binary32 sign mantissa exponent =
        .finite sign (mantissa * 2 ^ places) (exponent - places) regular.positive := by
  have nonzero : mantissa ≠ 0 := Nat.ne_of_gt positive
  have high : mantissa.log2 < 24 := (Nat.log2_lt nonzero).mpr short
  have total : Format.binary32.targetExponent (totalExponent mantissa exponent) =
      max (mantissa.log2 + 1 + exponent - 24) (-149) := rfl
  obtain ⟨places, amount⟩ : ∃ places,
      places = (exponent - max (mantissa.log2 + 1 + exponent - 24) (-149)).toNat := ⟨_, rfl⟩
  have longer := log2_mul_two_pow positive places
  have kept : 0 < mantissa * 2 ^ places := Nat.mul_pos positive (Nat.two_pow_pos places)
  have regular : Regular (mantissa * 2 ^ places) (exponent - places) := by
    refine ⟨kept, ?_, by omega, ?_⟩
    · rw [← Nat.log2_lt (Nat.ne_of_gt kept)]
      omega
    · rw [← Nat.le_log2 (Nat.ne_of_gt kept)]
      omega
  refine ⟨places, regular, ?_⟩
  have settled := roundWithAccuracy_of_regular sign regular 0
  rw [Nat.pow_zero, Nat.mul_one, Int.ofNat_zero, Int.sub_zero] at settled
  unfold UnpackedFloat.round decreaseExponent
  simp only [total, ← amount, Nat.shiftLeft_eq]
  exact settled

/-- Rounding a positive number that is no finer than singles are gives a regular number. -/
theorem round_regular (sign : Sign) {mantissa : Nat} {exponent : Int} (positive : 0 < mantissa)
    (least : -149 ≤ exponent) :
    ∃ (rounded : Nat) (last : Int) (regular : Regular rounded last),
      UnpackedFloat.round .binary32 sign mantissa exponent =
        .finite sign rounded last regular.positive ∧
      last ≤ max (exponent + mantissa.log2 - 22) (-149) := by
  have nonzero : mantissa ≠ 0 := Nat.ne_of_gt positive
  by_cases long : 2 ^ 24 ≤ mantissa
  · have enough : 24 ≤ mantissa.log2 := (Nat.le_log2 nonzero).mpr long
    have total : Format.binary32.targetExponent (totalExponent mantissa exponent) =
        max (mantissa.log2 + 1 + exponent - 24) (-149) := rfl
    unfold UnpackedFloat.round decreaseExponent
    simp only [total]
    rw [show (exponent - max (mantissa.log2 + 1 + exponent - 24) (-149)).toNat = 0 by omega,
      Nat.shiftLeft_zero, Int.ofNat_zero, Int.sub_zero]
    obtain ⟨rounded, last, regular, settled, high⟩ :=
      roundWithAccuracy_of_long sign .exact (show 2 ^ 23 ≤ mantissa by omega) least
    exact ⟨rounded, last, regular, settled, by omega⟩
  · obtain ⟨places, regular, settled⟩ := round_of_short sign positive (by omega) least
    refine ⟨_, _, regular, settled, ?_⟩
    have longer := log2_mul_two_pow positive places
    have filled := regular.leading
    rw [← Nat.le_log2 (Nat.ne_of_gt regular.positive)] at filled
    omega

/-- A positive integer is only rounded. -/
theorem normalize_of_pos {mantissa : Nat} (positive : 0 < mantissa) (exponent : Int) :
    UnpackedFloat.normalize .binary32 mantissa exponent .positive =
      .round .binary32 .positive mantissa exponent := by
  have above : compare (mantissa : Int) 0 = .gt := Int.compare_eq_gt.mpr (by omega)
  unfold UnpackedFloat.normalize
  simp only [above, Int.toNat_natCast]

/-- What is made of a positive mantissa is positive. -/
theorem positive_round {mantissa : Nat} {exponent : Int} (positive : 0 < mantissa)
    (least : -149 ≤ exponent) :
    Positive (.ofModel (.pack (.round .binary32 .positive mantissa exponent))) := by
  obtain ⟨rounded, last, regular, round, -⟩ := round_regular .positive positive least
  rw [round]
  exact positive_pack regular

theorem countToSingle_eq_round {n : Nat} (positive : 0 < n) (fits : n < UInt64.size) :
    countToSingle n = .ofModel (.pack (.round .binary32 .positive n 0)) := by
  have count : (UInt64.ofNat n).toNat = n := UInt64.toNat_ofNat_of_lt fits
  change Float32.ofModel (.pack (.normalize .binary32 (UInt64.ofNat n).toNat 0 .positive)) = _
  rw [count, normalize_of_pos positive]

/-- A count is positive as a single, unless it is zero. -/
theorem positive_countToSingle {n : Nat} (positive : 0 < n) (fits : n < UInt64.size) :
    Positive (countToSingle n) := by
  rw [countToSingle_eq_round positive fits]
  exact positive_round positive (by decide)

/-- Positive numbers are added as the mantissas that they have for the smaller exponent. -/
theorem add_finite {mantissa other : Nat} {exponent lower : Int} {positive : 0 < mantissa}
    {above : 0 < other} :
    UnpackedFloat.add .binary32 (.finite .positive mantissa exponent positive)
        (.finite .positive other lower above) =
      .round .binary32 .positive (mantissa * 2 ^ (exponent - min exponent lower).toNat +
        other * 2 ^ (lower - min exponent lower).toNat) (min exponent lower) := by
  have some : 0 < mantissa * 2 ^ (exponent - min exponent lower).toNat +
      other * 2 ^ (lower - min exponent lower).toNat :=
    Nat.add_pos_left (Nat.mul_pos positive (Nat.two_pow_pos _)) _
  rw [UnpackedFloat.add]
  simp only [decreaseExponent, Sign.apply, Nat.shiftLeft_eq, ← Int.natCast_add,
    normalize_of_pos some]

/-- The sum of positive numbers is positive. -/
theorem Positive.add {x y : Float32} (first : Positive x) (second : Positive y) :
    Positive (x + y) := by
  have regularX : ∀ sign mantissa exponent bound,
      x.toModel.unpack = .finite sign mantissa exponent bound → Regular mantissa exponent :=
    fun _ _ _ _ => regular_of_toModel
  have regularY : ∀ sign mantissa exponent bound,
      y.toModel.unpack = .finite sign mantissa exponent bound → Regular mantissa exponent :=
    fun _ _ _ _ => regular_of_toModel
  change Positive (.ofModel (.pack (.add .binary32 x.toModel.unpack y.toModel.unpack)))
  unfold Positive at first second
  generalize x.toModel.unpack = a at first regularX ⊢
  generalize y.toModel.unpack = b at second regularY ⊢
  cases first with
  | infinity => cases second <;> exact positive_infinity
  | @finite mantissa exponent bound =>
    cases second with
    | infinity => exact positive_infinity
    | @finite other lower above =>
      have leastX := (regularX _ _ _ _ rfl).least
      have leastY := (regularY _ _ _ _ rfl).least
      have some : 0 < mantissa * 2 ^ (exponent - min exponent lower).toNat :=
        Nat.mul_pos bound (Nat.two_pow_pos _)
      rw [add_finite]
      exact positive_round (Nat.add_pos_left some _) (by omega)

/-- Adding to zero changes nothing in a positive number. -/
theorem Positive.zero_add {x : Float32} (positive : Positive x) : 0.0 + x = x := by
  change Float32.ofModel (.pack (.add .binary32 (0.0 : Float32).toModel.unpack x.toModel.unpack)) = x
  refine Eq.trans ?_ (ofModel_pack_unpack x)
  congr 2
  rw [unpack_zero]
  unfold Positive at positive
  generalize x.toModel.unpack = unpacked at positive ⊢
  cases positive <;> rfl

theorem Positive.foldl_add {start : Float32} (positive : Positive start) {parts : List Float32}
    (each : ∀ part ∈ parts, Positive part) : Positive (parts.foldl (· + ·) start) := by
  induction parts generalizing start with
  | nil => exact positive
  | cons part rest ih =>
    rw [List.forall_mem_cons] at each
    exact ih (positive.add each.1) each.2

/-- A sum of positive numbers is positive as soon as there is one to add. -/
theorem positive_foldl_add {parts : List Float32} (each : ∀ part ∈ parts, Positive part)
    (some : parts ≠ []) : Positive (parts.foldl (· + ·) 0.0) := by
  cases parts with
  | nil => exact absurd rfl some
  | cons first rest =>
    rw [List.forall_mem_cons] at each
    rw [List.foldl_cons, each.1.zero_add]
    exact each.1.foldl_add each.2

theorem positive_one : Positive 1.0 := by
  rw [Positive, unpack_one]
  exact .finite

theorem not_zero_lt_zero : ¬ (0.0 : Float32) < 0.0 := by
  rw [zero_lt_iff, Positive, unpack_zero]
  exact nofun

end Relevance.Single
