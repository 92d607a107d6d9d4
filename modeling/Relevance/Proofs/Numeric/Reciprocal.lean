import Relevance.Proofs.Numeric.Positive
import Relevance.Scoring.Similarity

set_option autoImplicit false

namespace Relevance.Single

open Float.Model Float.Model.UnpackedFloat

/-- A positive number with an exponent of at most `high`. -/
def PositiveUpTo (high : Int) (x : Float32) : Prop :=
  ∃ mantissa exponent positive,
    x.toModel.unpack = .finite .positive mantissa exponent positive ∧ exponent ≤ high

theorem positiveUpTo_round {mantissa : Nat} {exponent high : Int} (positive : 0 < mantissa)
    (least : -149 ≤ exponent) (fits : exponent + mantissa.log2 - 22 ≤ high) (low : -149 ≤ high)
    (finite : high ≤ 104) :
    PositiveUpTo high (.ofModel (.pack (.round .binary32 .positive mantissa exponent))) := by
  obtain ⟨rounded, last, regular, round, bound⟩ := round_regular .positive positive least
  rw [round]
  exact ⟨rounded, last, regular.positive, toModel_unpack_pack regular (by omega), by omega⟩

theorem positiveUpTo_toFloat32 {n : UInt32} (positive : 0 < n.toNat) :
    PositiveUpTo 9 n.toFloat32 := by
  have short : n.toNat.log2 < 32 := (Nat.log2_lt (Nat.ne_of_gt positive)).mpr n.toNat_lt
  change PositiveUpTo 9 (.ofModel (.pack (.normalize .binary32 n.toNat 0 .positive)))
  rw [normalize_of_pos positive]
  exact positiveUpTo_round positive (by decide) (by omega) (by decide) (by decide)

/-- Adding one to a number keeps it far from infinite. -/
theorem PositiveUpTo.add_one {x : Float32} (bounded : PositiveUpTo 9 x) :
    PositiveUpTo 11 (x + 1.0) := by
  obtain ⟨mantissa, exponent, positive, unpacked, high⟩ := bounded
  have regular : Regular mantissa exponent := regular_of_toModel unpacked
  change PositiveUpTo 11
    (.ofModel (.pack (.add .binary32 x.toModel.unpack (1.0 : Float32).toModel.unpack)))
  rw [unpacked, unpack_one, add_finite]
  have least := regular.least
  obtain ⟨lower, same⟩ : ∃ lower, lower = min exponent (-23) := ⟨_, rfl⟩
  rw [← same]
  obtain ⟨places, shift⟩ : ∃ places, places = (exponent - lower).toNat := ⟨_, rfl⟩
  obtain ⟨others, move⟩ : ∃ others, others = (-23 - lower).toNat := ⟨_, rfl⟩
  obtain ⟨bits, enough⟩ : ∃ bits, bits = (33 - lower).toNat := ⟨_, rfl⟩
  rw [← shift, ← move]
  have first : mantissa * 2 ^ places < 2 ^ bits := by
    calc mantissa * 2 ^ places
        < 2 ^ 24 * 2 ^ places := Nat.mul_lt_mul_of_pos_right regular.fits (Nat.two_pow_pos places)
      _ = 2 ^ (24 + places) := (Nat.pow_add 2 24 places).symm
      _ ≤ 2 ^ bits := Nat.pow_le_pow_right (by decide) (by omega)
  have second : 2 ^ 23 * 2 ^ others ≤ 2 ^ bits := by
    rw [← Nat.pow_add]
    exact Nat.pow_le_pow_right (by decide) (by omega)
  have some : 0 < mantissa * 2 ^ places := Nat.mul_pos positive (Nat.two_pow_pos places)
  have short : (mantissa * 2 ^ places + 2 ^ 23 * 2 ^ others).log2 < bits + 1 := by
    rw [Nat.log2_lt (by omega), Nat.pow_succ]
    omega
  exact positiveUpTo_round (Nat.add_pos_left some _) (by omega) (by omega) (by decide) (by decide)

theorem PositiveUpTo.one_div {x : Float32} (bounded : PositiveUpTo 11 x) : Positive (1.0 / x) := by
  obtain ⟨mantissa, exponent, positive, unpacked, high⟩ := bounded
  have regular : Regular mantissa exponent := regular_of_toModel unpacked
  have least := regular.least
  have nonzero : mantissa ≠ 0 := Nat.ne_of_gt positive
  have short : mantissa.log2 < 24 := (Nat.log2_lt nonzero).mpr regular.fits
  have shorter : mantissa < 2 ^ (mantissa.log2 + 1) := Nat.lt_log2_self
  change Positive
    (.ofModel (.pack (.div .binary32 (1.0 : Float32).toModel.unpack x.toModel.unpack)))
  rw [unpacked, unpack_one, UnpackedFloat.div]
  have target : Format.binary32.targetExponent
      (totalExponent (2 ^ 23) (-23) - totalExponent mantissa exponent) =
        -exponent - mantissa.log2 - 24 := by
    rw [targetExponent_eq, totalExponent, totalExponent, Nat.log2_two_pow]
    omega
  have amount : (-23 - exponent - (-exponent - mantissa.log2 - 24)).toNat = 1 + mantissa.log2 := by
    omega
  have lower : min (-23 - exponent) (-exponent - mantissa.log2 - 24) =
      -exponent - mantissa.log2 - 24 := by omega
  have core : divCore .binary32 (2 ^ 23) (-23) mantissa exponent =
      (2 ^ 23 * 2 ^ (1 + mantissa.log2) / mantissa, -exponent - mantissa.log2 - 24,
        accuracyOfFraction (2 ^ 23 * 2 ^ (1 + mantissa.log2) % mantissa) mantissa) := by
    unfold divCore
    simp only [target, lower, amount, Nat.shiftLeft_eq]
  have long : 2 ^ 23 ≤ 2 ^ 23 * 2 ^ (1 + mantissa.log2) / mantissa := by
    rw [Nat.le_div_iff_mul_le positive, Nat.add_comm 1]
    exact Nat.mul_le_mul_left (2 ^ 23) (Nat.le_of_lt shorter)
  obtain ⟨rounded, last, settled, round, -⟩ := roundWithAccuracy_of_long (.positive / .positive)
    (accuracyOfFraction (2 ^ 23 * 2 ^ (1 + mantissa.log2) % mantissa) mantissa) long
    (show -149 ≤ -exponent - mantissa.log2 - 24 by omega)
  simp only [core, round]
  exact positive_pack settled

theorem sloppyFreq_zero : Similarity.sloppyFreq 0 = 1.0 := by decide +kernel

/-- An occurrence counts something, however long it is. -/
theorem positive_sloppyFreq (distance : UInt32) : Positive (Similarity.sloppyFreq distance) := by
  rcases Nat.eq_zero_or_pos distance.toNat with zero | positive
  · have same : distance = 0 := UInt32.toNat_inj.mp zero
    rw [same, sloppyFreq_zero]
    exact positive_one
  · exact (positiveUpTo_toFloat32 positive).add_one.one_div

end Relevance.Single
