import Relevance.Proofs.Numeric.Positive

set_option autoImplicit false

namespace Relevance.Single

open Float.Model Float.Model.UnpackedFloat

/-- A count with at most 24 places is not rounded. -/
theorem unpack_countToSingle {n : Nat} (positive : 0 < n) (short : n < 2 ^ 24) :
    ∃ (places : Nat) (regular : Regular (n * 2 ^ places) (-places)),
      (countToSingle n).toModel.unpack =
        .finite .positive (n * 2 ^ places) (-places) regular.positive := by
  have fits : n < UInt64.size := by
    change n < 2 ^ 64
    omega
  obtain ⟨places, regular, rounded⟩ : ∃ (places : Nat)
      (regular : Regular (n * 2 ^ places) (0 - places)),
      UnpackedFloat.round .binary32 .positive n 0 =
        .finite .positive (n * 2 ^ places) (0 - places) regular.positive :=
    round_of_short .positive positive short (by decide)
  simp only [Int.zero_sub] at regular rounded
  refine ⟨places, regular, ?_⟩
  rw [countToSingle_eq_round positive fits, rounded]
  exact toModel_unpack_pack regular (by omega)

/-- A count has to be shifted by less than the 24 places of its mantissa. -/
theorem Regular.places_le {n places : Nat} (positive : 0 < n)
    (regular : Regular (n * 2 ^ places) (-places)) : places ≤ 23 := by
  by_contra many
  have long : 2 ^ 24 ≤ 2 ^ places := Nat.pow_le_pow_right (by decide) (by omega)
  have least : 2 ^ places ≤ n * 2 ^ places := Nat.le_mul_of_pos_left _ positive
  have fits := regular.fits
  omega

/-- One more is exact as long as the count has no more than 24 places. -/
theorem countToSingle_add_one {n : Nat} (short : n < 2 ^ 24) :
    countToSingle n + 1.0 = countToSingle (n + 1) := by
  rcases Nat.eq_zero_or_pos n with rfl | positive
  · decide +kernel
  rcases Nat.lt_or_eq_of_le (Nat.succ_le_of_lt short) with next | last
  case inr =>
    have same : n = 2 ^ 24 - 1 := by omega
    rw [same]
    decide +kernel
  obtain ⟨places, regular, unpacked⟩ := unpack_countToSingle positive short
  obtain ⟨others, above, reached⟩ := unpack_countToSingle (Nat.succ_pos n) next
  have few : places ≤ 23 := regular.places_le positive
  have fewer : others ≤ 23 := above.places_le (Nat.succ_pos n)
  -- Both numbers are written with the exponent of one, and there the mantissas are added.
  have exponent : min (-(places : Int)) (-23) = -23 := by omega
  have shift : (-(places : Int) - -23).toNat = 23 - places := by omega
  have written : n * 2 ^ places * 2 ^ (23 - places) = n * 2 ^ 23 := by
    rw [Nat.mul_assoc, ← Nat.pow_add, Nat.add_sub_cancel' few]
  have sum : (n + 1) * 2 ^ others * 2 ^ (23 - others) = n * 2 ^ 23 + 2 ^ 23 := by
    rw [Nat.mul_assoc, ← Nat.pow_add, Nat.add_sub_cancel' fewer, Nat.succ_mul]
  have rounded := round_of_regular .positive above (23 - others)
  rw [sum, show -(others : Int) - (23 - others : Nat) = -23 by omega] at rounded
  have added : UnpackedFloat.add .binary32 (countToSingle n).toModel.unpack
      (1.0 : Float32).toModel.unpack = (countToSingle (n + 1)).toModel.unpack := by
    rw [unpacked, unpack_one, reached, add_finite, exponent, shift, written, Int.sub_self,
      Int.toNat_zero, Nat.pow_zero, Nat.mul_one]
    exact rounded
  change Float32.ofModel (.pack (.add .binary32 (countToSingle n).toModel.unpack
    (1.0 : Float32).toModel.unpack)) = _
  rw [added]
  exact ofModel_pack_unpack (countToSingle (n + 1))

/-- Counting by ones, one step of it. -/
theorem countToSingle_min_add_one (n : Nat) :
    countToSingle (min n (2 ^ 24)) + 1.0 = countToSingle (min (n + 1) (2 ^ 24)) := by
  by_cases short : n < 2 ^ 24
  · rw [Nat.min_eq_left (Nat.le_of_lt short), Nat.min_eq_left short]
    exact countToSingle_add_one short
  · rw [Nat.min_eq_right (by omega), Nat.min_eq_right (by omega)]
    decide +kernel

variable {α : Type}

/-- Adding one for each item that fits counts those items, as far as counting by ones goes. -/
theorem foldl_add_one (items : List α) (fits : α → Bool) (n : Nat) :
    (items.filterMap fun item => if fits item then some (1.0 : Float32) else none).foldl (· + ·)
        (countToSingle (min n (2 ^ 24))) =
      countToSingle (min (n + items.countP fits) (2 ^ 24)) := by
  induction items generalizing n with
  | nil => rfl
  | cons item rest ih =>
    rw [List.filterMap_cons, List.countP_cons]
    cases fit : fits item with
    | true =>
      simp only [if_true, List.foldl_cons, countToSingle_min_add_one]
      rw [ih, Nat.add_right_comm, Nat.add_assoc]
    | false =>
      simp only [Bool.false_eq_true, if_false, Nat.add_zero]
      exact ih n

theorem sum_ones_eq_count (items : List α) (fits : α → Bool) :
    (items.filterMap fun item => if fits item then some (1.0 : Float32) else none).foldl (· + ·)
      0.0 = countToSingle (min (items.countP fits) (2 ^ 24)) := by
  have counted := foldl_add_one items fits 0
  rw [Nat.zero_add, Nat.zero_min, countToSingle_zero] at counted
  exact counted

end Relevance.Single
