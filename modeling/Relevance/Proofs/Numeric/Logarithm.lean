import Relevance.Numeric.Logarithm
import Relevance.Proofs.Numeric.Bounds

set_option autoImplicit false

namespace Relevance

open Float.Model Float.Model.UnpackedFloat Rounding

namespace Logarithm

theorem one_eq : one = 2 ^ 192 := Nat.one_shiftLeft 192

theorem series_le {square : Nat} (small : 2 * square ≤ one) (terms odd power : Nat) :
    series square terms odd power ≤ 2 * power := by
  have positive : 0 < one := one_eq ▸ Nat.two_pow_pos 192
  induction terms generalizing odd power with
  | zero => exact Nat.zero_le _
  | succ terms ih =>
    have first := Nat.div_le_self power odd
    have rest := ih (odd + 2) (power * square / one)
    have half : 2 * (power * square / one) ≤ power := by
      apply Nat.le_of_mul_le_mul_right _ positive
      calc 2 * (power * square / one) * one
          = 2 * (power * square / one * one) := Nat.mul_assoc _ _ _
        _ ≤ 2 * (power * square) := Nat.mul_le_mul_left 2 (Nat.div_mul_le_self _ _)
        _ = power * (2 * square) := by rw [Nat.mul_left_comm]
        _ ≤ power * one := Nat.mul_le_mul_left power small
    rw [series]
    omega

theorem ofRatio_le {num den : Nat} (positive : 0 < den) (high : num ≤ 2 * den) :
    3 * ofRatio num den ≤ 4 * one := by
  have some : 0 < one := one_eq ▸ Nat.two_pow_pos 192
  unfold ofRatio
  obtain ⟨argument, same⟩ : ∃ argument, (num - den) * one / (num + den) = argument := ⟨_, rfl⟩
  have third : 3 * argument ≤ one := by
    apply Nat.le_of_mul_le_mul_right _ (Nat.add_pos_right num positive)
    have below : argument * (num + den) ≤ (num - den) * one := by
      rw [← same]
      exact Nat.div_mul_le_self _ _
    calc 3 * argument * (num + den)
        = 3 * (argument * (num + den)) := Nat.mul_assoc _ _ _
      _ ≤ 3 * ((num - den) * one) := Nat.mul_le_mul_left 3 below
      _ = 3 * (num - den) * one := (Nat.mul_assoc _ _ _).symm
      _ ≤ (num + den) * one := Nat.mul_le_mul_right one (by omega)
      _ = one * (num + den) := Nat.mul_comm _ _
  have square : argument * argument / one ≤ argument := by
    apply Nat.div_le_of_le_mul
    exact Nat.mul_le_mul_right argument (by omega)
  have sum := series_le (show 2 * (argument * argument / one) ≤ one by omega) 64 1 argument
  simp only [same]
  omega

/-- The logarithm of a number from one up to `2 ^ 64`. -/
theorem exists_ofBinary {mantissa : Nat} {exponent : Int}
    (low : 0 ≤ exponent + mantissa.log2) (high : exponent + mantissa.log2 ≤ 64) :
    ∃ amount : Nat, ofBinary mantissa exponent = amount ∧ 3 * amount ≤ 260 * one := by
  obtain ⟨places, same⟩ : ∃ places : Nat, exponent + mantissa.log2 = places :=
    ⟨(exponent + mantissa.log2).toNat, by omega⟩
  have double : mantissa ≤ 2 * 2 ^ mantissa.log2 := by
    rw [Nat.mul_comm, ← Nat.pow_succ]
    exact Nat.lt_log2_self.le
  have whole : 3 * ofRatio 2 1 ≤ 4 * one := ofRatio_le one_pos (Nat.le_refl 2)
  have rest : 3 * ofRatio mantissa (2 ^ mantissa.log2) ≤ 4 * one :=
    ofRatio_le (Nat.two_pow_pos _) double
  refine ⟨places * ofRatio 2 1 + ofRatio mantissa (2 ^ mantissa.log2), ?_, ?_⟩
  · rw [ofBinary, same, Nat.one_shiftLeft]
    push_cast
    rfl
  · have few : places ≤ 64 := by omega
    calc 3 * (places * ofRatio 2 1 + ofRatio mantissa (2 ^ mantissa.log2))
        = places * (3 * ofRatio 2 1) + 3 * ofRatio mantissa (2 ^ mantissa.log2) := by ring
      _ ≤ 64 * (4 * one) + 4 * one := Nat.add_le_add (Nat.mul_le_mul few whole) rest
      _ = 260 * one := by ring

end Logarithm

namespace Double

theorem between_one : Between 1 1 1.0 := by
  have spans := spans_one
  rwa [Spans, Rounding.Spans, zpow_zero] at spans

theorem between_ln {x : Float} (between : Between 1 (2 ^ (64 : Int)) x) :
    Between 0 127 (ln x) := by
  obtain ⟨value, worth, above, below⟩ := between
  unfold ln
  generalize x.toModel.unpack = unpacked at worth ⊢
  cases worth with
  | zero => exact absurd above (not_le.mpr one_pos)
  | @finite mantissa exponent positive short least filled =>
    have leading := Nat.log2_self_le (Nat.ne_of_gt positive)
    have low : 0 ≤ exponent + mantissa.log2 := by
      have less : (2 : ℝ) ^ (0 : Int) < 2 ^ (exponent + (mantissa.log2 + 1 : Nat)) := by
        calc (2 : ℝ) ^ (0 : Int)
            = 1 := zpow_zero 2
          _ ≤ scaled mantissa exponent := above
          _ < scaled (2 ^ (mantissa.log2 + 1)) exponent :=
              (scaled_lt_scaled exponent).mpr Nat.lt_log2_self
          _ = 2 ^ (exponent + (mantissa.log2 + 1 : Nat)) := scaled_two_pow _ exponent
      rw [zpow_lt_zpow_iff_right₀ one_lt_two] at less
      omega
    have high : exponent + mantissa.log2 ≤ 64 := by
      have less : (2 : ℝ) ^ (exponent + mantissa.log2) ≤ 2 ^ (64 : Int) := by
        calc (2 : ℝ) ^ (exponent + mantissa.log2)
            = scaled (2 ^ mantissa.log2) exponent := (scaled_two_pow _ exponent).symm
          _ ≤ scaled mantissa exponent := (scaled_le_scaled exponent).mpr leading
          _ ≤ 2 ^ (64 : Int) := below
      exact (zpow_le_zpow_iff_right₀ one_lt_two).mp less
    obtain ⟨amount, same, bounded⟩ := Logarithm.exists_ofBinary low high
    simp only [same]
    have small : (127 : ℝ) ≤ 2 ^ (900 : Int) := by
      calc (127 : ℝ)
          ≤ 2 ^ (7 : Int) := by norm_num
        _ ≤ 2 ^ (900 : Int) := two_zpow_mono (by decide)
    apply between_pack _ small
    have highest : OnGrid .binary64 (127 : ℝ) := by
      have whole : OnGrid .binary64 (127 : Nat) := onGrid_natCast (by decide)
      exact_mod_cast whole
    apply (rounds_normalize amount _).between onGrid_zero highest
    · exact mul_nonneg (Nat.cast_nonneg amount) (zpow_pos_two _).le
    · have real : (3 : ℝ) * amount ≤ 260 * 2 ^ 192 := by
        rw [Logarithm.one_eq] at bounded
        exact_mod_cast bounded
      rw [scaled, Logarithm.workingBits]
      norm_num at real ⊢
      linarith

/-- One more than the logarithm of a number from one up to `2 ^ 64`. -/
theorem spans_ln_add_one {x : Float} (between : Between 1 (2 ^ (64 : Int)) x) :
    Spans 0 7 (ln x + 1.0) := by
  apply spans_pack _ (by decide)
  apply Rounding.Between.add (between_ln between) between_one (onGrid_two_zpow (by decide))
    (onGrid_two_zpow (by decide))
  · norm_num
  · norm_num

end Double

end Relevance
