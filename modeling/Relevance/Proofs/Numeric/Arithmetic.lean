import Relevance.Proofs.Numeric.Rounding

set_option autoImplicit false

namespace Relevance.Rounding

open Float.Model Float.Model.UnpackedFloat

variable {format : Format} {a b : UnpackedFloat} {x y : ℝ}

theorem Worth.nonneg (worth : Worth format a x) : 0 ≤ x := by
  cases worth with
  | zero => exact le_refl _
  | @finite mantissa exponent =>
    exact mul_nonneg (Nat.cast_nonneg mantissa) (zpow_pos_two exponent).le

theorem Worth.regrade {source : Format} (worth : Worth source a x) :
    Rounds format (regrade format a) x := by
  cases worth with
  | zero => exact Worth.zero.rounds
  | @finite mantissa exponent positive => exact rounds_round positive exponent

theorem Worth.add (first : Worth format a x) (second : Worth format b y) :
    Rounds format (a.add format b) (x + y) := by
  cases first with
  | zero =>
    rw [zero_add]
    cases second with
    | zero => exact Worth.zero.rounds
    | finite short least filled => exact (Worth.finite short least filled).rounds
  | @finite mantissa exponent positive short least filled =>
    cases second with
    | zero =>
      rw [add_zero]
      exact (Worth.finite short least filled).rounds
    | @finite other lower above =>
      obtain ⟨smaller, least⟩ : ∃ smaller, min exponent lower = smaller := ⟨_, rfl⟩
      have first : scaled mantissa exponent =
          scaled (mantissa * 2 ^ (exponent - smaller).toNat) smaller := by
        rw [← scaled_add, Int.toNat_of_nonneg (by omega), add_sub_cancel]
      have second : scaled other lower =
          scaled (other * 2 ^ (lower - smaller).toNat) smaller := by
        rw [← scaled_add, Int.toNat_of_nonneg (by omega), add_sub_cancel]
      have sum : scaled mantissa exponent + scaled other lower =
          scaled (mantissa * 2 ^ (exponent - smaller).toNat +
            other * 2 ^ (lower - smaller).toNat) smaller := by
        rw [first, second, scaled, scaled, scaled]
        push_cast
        ring
      rw [sum]
      unfold UnpackedFloat.add decreaseExponent
      simp only [least, Sign.apply, Nat.shiftLeft_eq, ← Int.natCast_add]
      exact rounds_normalize _ _

theorem minExponent_le_zero (format : Format) : format.minExponent ≤ 0 := by
  have several := mantissaBits_pos format
  have power : (1 : Int) ≤ 2 ^ (format.exponentBits - 1) := one_le_pow₀ (by decide)
  unfold Format.minExponent
  omega

/-- The product of two mantissas has all places, unless both numbers are tiny. -/
theorem enough_mul {mantissa other : Nat} {exponent lower : Int} (positive : 0 < mantissa)
    (above : 0 < other) (filled : Filled format mantissa exponent)
    (complete : Filled format other lower) :
    exponent + lower ≤
      format.targetExponent (totalExponent (mantissa * other) (exponent + lower)) := by
  have several := mantissaBits_pos format
  have nonzero : mantissa * other ≠ 0 := Nat.ne_of_gt (Nat.mul_pos positive above)
  have long : 2 ^ (format.mantissaBits - 1) ≤ mantissa * other →
      format.mantissaBits - 1 ≤ (mantissa * other).log2 := (Nat.le_log2 nonzero).mpr
  have low := minExponent_le_zero format
  unfold Format.targetExponent totalExponent
  rcases filled with leading | least
  · have enough := long (leading.trans (Nat.le_mul_of_pos_right mantissa above))
    omega
  rcases complete with leading | smallest
  · have enough := long (leading.trans (Nat.le_mul_of_pos_left other positive))
    omega
  · omega

theorem Worth.mul (first : Worth format a x) (second : Worth format b y) :
    Rounds format (a.mul format b) (x * y) := by
  cases first with
  | zero =>
    rw [zero_mul]
    cases second <;> exact Worth.zero.rounds
  | @finite mantissa exponent positive short least filled =>
    cases second with
    | zero =>
      rw [mul_zero]
      exact Worth.zero.rounds
    | @finite other lower above fits smallest complete =>
      have product : scaled mantissa exponent * scaled other lower =
          scaled (mantissa * other) (exponent + lower) := by
        rw [scaled, scaled, scaled, zpow_add₀ two_ne_zero]
        push_cast
        ring
      rw [product]
      exact rounds_roundWithAccuracy (locates_exact _ _)
        (enough_mul positive above filled complete)

/-- A mantissa has no residual bits just if it is exact. -/
theorem residual_iff (mantissa : Nat) (accuracy : Accuracy) :
    (ExtendedMantissa.ofMantissaAndAccuracy mantissa accuracy).roundBit = false ∧
      (ExtendedMantissa.ofMantissaAndAccuracy mantissa accuracy).stickyBit = false ↔
        accuracy = .exact := by
  cases accuracy with
  | exact => simp [ExtendedMantissa.ofMantissaAndAccuracy]
  | inexact order => cases order <;> simp [ExtendedMantissa.ofMantissaAndAccuracy]

theorem locates_quotient (dividend : Nat) {divisor : Nat} (positive : 0 < divisor)
    (exponent : Int) :
    Locates (.ofMantissaAndAccuracy (dividend / divisor)
      (accuracyOfFraction (dividend % divisor) divisor)) exponent
      (dividend / divisor * 2 ^ exponent) := by
  have real : (0 : ℝ) < divisor := Nat.cast_pos.mpr positive
  have power := zpow_pos_two exponent
  have quotient := Single.mantissa_ofMantissaAndAccuracy (dividend / divisor)
    (accuracyOfFraction (dividend % divisor) divisor)
  refine ⟨?_, ?_, ?_⟩
  · rw [quotient, scaled]
    exact mul_le_mul_of_nonneg_right Nat.cast_div_le power.le
  · have less := Nat.lt_mul_div_succ dividend positive
    rw [quotient, scaled, mul_lt_mul_iff_of_pos_right power, div_lt_iff₀ real, ← Nat.cast_mul,
      Nat.cast_lt, Nat.mul_comm]
    exact less
  · have split := Nat.div_add_mod' dividend divisor
    rw [residual_iff, quotient, scaled, mul_left_inj' power.ne', div_eq_iff real.ne',
      ← Nat.cast_mul, Nat.cast_inj, accuracyOfFraction]
    by_cases none : dividend % divisor = 0
    · rw [if_pos none]
      simp only [iff_true]
      omega
    · rw [if_neg none]
      simp only [reduceCtorEq, iff_false]
      omega

/-- The quotient has all places that the two exponents promise. -/
theorem log2_le_log2_div (dividend : Nat) {divisor : Nat} (positive : 0 < divisor) :
    dividend.log2 ≤ (dividend / divisor).log2 + 1 + divisor.log2 := by
  by_cases zero : dividend = 0
  · rw [zero, Nat.log2_zero]
    exact Nat.zero_le _
  apply Nat.le_of_lt_succ
  rw [Nat.log2_lt zero]
  calc dividend
      < divisor * (dividend / divisor + 1) := Nat.lt_mul_div_succ dividend positive
    _ ≤ 2 ^ (divisor.log2 + 1) * 2 ^ ((dividend / divisor).log2 + 1) :=
        Nat.mul_le_mul Nat.lt_log2_self.le Nat.lt_log2_self
    _ = 2 ^ ((dividend / divisor).log2 + 1 + divisor.log2).succ := by
        rw [← Nat.pow_add]
        congr 1
        omega

theorem targetExponent_mono {low high : Int} (order : low ≤ high) :
    format.targetExponent low ≤ format.targetExponent high := by
  unfold Format.targetExponent
  omega

theorem Worth.div (first : Worth format a x) (second : Worth format b y) (positive : 0 < y) :
    Rounds format (a.div format b) (x / y) := by
  cases second with
  | zero => exact absurd positive (lt_irrefl 0)
  | @finite other lower above =>
    cases first with
    | zero =>
      rw [zero_div]
      exact Worth.zero.rounds
    | @finite mantissa exponent some =>
      obtain ⟨target, aimed⟩ : ∃ target, min (exponent - lower)
          (format.targetExponent (totalExponent mantissa exponent - totalExponent other lower)) =
            target := ⟨_, rfl⟩
      obtain ⟨places, amount⟩ : ∃ places, (exponent - lower - target).toNat = places := ⟨_, rfl⟩
      have reached : exponent = target + lower + places := by omega
      have quotient : scaled mantissa exponent / scaled other lower =
          (mantissa * 2 ^ places : Nat) / other * 2 ^ target := by
        rw [reached, scaled_add, scaled, scaled, zpow_add₀ two_ne_zero]
        have real : (other : ℝ) ≠ 0 := Nat.cast_ne_zero.mpr (Nat.ne_of_gt above)
        have power := (zpow_pos_two lower).ne'
        field_simp
      have long := Single.log2_mul_two_pow some places
      have whole := log2_le_log2_div (mantissa * 2 ^ places) above
      rw [quotient]
      unfold UnpackedFloat.div divCore
      simp only [aimed, amount, Nat.shiftLeft_eq]
      apply rounds_roundWithAccuracy (locates_quotient _ above target)
      calc target
          ≤ format.targetExponent
              (totalExponent mantissa exponent - totalExponent other lower) := by omega
        _ ≤ _ := by
          apply targetExponent_mono
          unfold totalExponent
          omega

theorem locates_sqrt (square : Nat) (exponent : Int) :
    Locates (.ofMantissaAndAccuracy square.sqrt
      (if square - square.sqrt * square.sqrt = 0 then .exact
        else .inexact (if square - square.sqrt * square.sqrt ≤ square.sqrt then .lt else .gt)))
      exponent (√square * 2 ^ exponent) := by
  have power := zpow_pos_two exponent
  have below := Nat.sqrt_le square
  have above := Nat.lt_succ_sqrt square
  have root : ∀ other : Nat, √(other * other : Nat) = other := by
    intro other
    rw [Nat.cast_mul, Real.sqrt_mul_self (Nat.cast_nonneg other)]
  refine ⟨?_, ?_, ?_⟩
  · rw [Single.mantissa_ofMantissaAndAccuracy, scaled, mul_le_mul_iff_of_pos_right power,
      ← root]
    exact Real.sqrt_le_sqrt (Nat.cast_le.mpr below)
  · rw [Single.mantissa_ofMantissaAndAccuracy, scaled, mul_lt_mul_iff_of_pos_right power,
      ← root (square.sqrt + 1)]
    exact Real.sqrt_lt_sqrt (Nat.cast_nonneg square) (Nat.cast_lt.mpr above)
  · rw [residual_iff, Single.mantissa_ofMantissaAndAccuracy, scaled, mul_left_inj' power.ne',
      ← root square.sqrt, Real.sqrt_inj (Nat.cast_nonneg _) (Nat.cast_nonneg _), Nat.cast_inj]
    by_cases none : square - square.sqrt * square.sqrt = 0
    · rw [if_pos none]
      simp only [iff_true]
      omega
    · rw [if_neg none]
      simp only [reduceCtorEq, iff_false]
      omega

theorem log2_le_log2_sqrt (square : Nat) : square.log2 ≤ 2 * square.sqrt.log2 + 1 := by
  by_cases zero : square = 0
  · rw [zero, Nat.log2_zero]
    exact Nat.zero_le _
  apply Nat.le_of_lt_succ
  rw [Nat.log2_lt zero]
  calc square
      < (square.sqrt + 1) * (square.sqrt + 1) := Nat.lt_succ_sqrt square
    _ ≤ 2 ^ (square.sqrt.log2 + 1) * 2 ^ (square.sqrt.log2 + 1) :=
        Nat.mul_le_mul Nat.lt_log2_self Nat.lt_log2_self
    _ = 2 ^ (2 * square.sqrt.log2 + 1).succ := by
        rw [← Nat.pow_add]
        congr 1
        omega

theorem Worth.sqrt (worth : Worth format a x) : Rounds format (a.sqrt format) (√x) := by
  cases worth with
  | zero =>
    rw [Real.sqrt_zero]
    exact Worth.zero.rounds
  | @finite mantissa exponent some =>
    obtain ⟨target, aimed⟩ : ∃ target, min (exponent.ediv 2)
        (format.targetExponent ((totalExponent mantissa exponent + 1).ediv 2)) = target :=
      ⟨_, rfl⟩
    have half : 2 * exponent.ediv 2 ≤ exponent := Int.mul_ediv_self_le two_ne_zero
    obtain ⟨places, amount⟩ : ∃ places, (exponent - 2 * target).toNat = places := ⟨_, rfl⟩
    have reached : exponent = target + target + places := by omega
    have root : √(scaled mantissa exponent) = √(mantissa * 2 ^ places : Nat) * 2 ^ target := by
      have power := (zpow_pos_two target).le
      rw [reached, scaled_add, scaled, zpow_add₀ two_ne_zero,
        Real.sqrt_mul (Nat.cast_nonneg _), Real.sqrt_mul_self power]
    have long := Single.log2_mul_two_pow some places
    have whole := log2_le_log2_sqrt (mantissa * 2 ^ places)
    rw [root]
    unfold UnpackedFloat.sqrt sqrtCore
    simp only [aimed, amount, Nat.shiftLeft_eq]
    apply rounds_roundWithAccuracy (locates_sqrt _ target)
    calc target
        ≤ format.targetExponent ((totalExponent mantissa exponent + 1).ediv 2) := by omega
      _ ≤ _ := by
        apply targetExponent_mono
        have top : (totalExponent mantissa exponent + 1).ediv 2 * 2 ≤
            totalExponent mantissa exponent + 1 := Int.ediv_mul_le _ two_ne_zero
        unfold totalExponent at top ⊢
        omega

end Relevance.Rounding
