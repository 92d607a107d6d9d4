import Relevance.Proofs.Index.Statistics
import Relevance.Proofs.Numeric.Logarithm

set_option autoImplicit false

namespace Relevance.Similarity

open Rounding

variable {similarity : Similarity}

theorem between_share {docFreq docCount : Nat} (order : docFreq ≤ docCount)
    (fits : docCount + similarity.countOffset < UInt64.size) :
    Double.Between 1 (2 ^ (64 : Int)) (similarity.share docFreq docCount) := by
  have offset : 0 < similarity.countOffset := by cases similarity <;> decide
  have dividend : Double.Spans 0 (64 : Nat) (countToDouble (docCount + similarity.countOffset)) :=
    Double.spans_countToDouble (by omega) fits.le (Nat.le_refl 64) fits
  have divisor : Double.Spans 0 (64 : Nat) (countToDouble (docFreq + similarity.countOffset)) :=
    Double.spans_countToDouble (by omega) (show _ ≤ UInt64.size by omega) (Nat.le_refl 64)
      (by omega)
  have quotient : Double.Spans (-64) 64 (similarity.share docFreq docCount) :=
    dividend.div divisor (by decide) (by decide) (by decide) (by decide)
  obtain ⟨value, worth, -, below⟩ := quotient
  have one : (1.0 : Float) ≤ similarity.share docFreq docCount :=
    Double.one_le_quotient (Nat.add_pos_right _ offset) (Nat.add_le_add_right order _) fits
  obtain ⟨least, known, above, -⟩ := Double.between_one
  rw [Double.le_iff, known.le_iff worth] at one
  exact ⟨value, worth, above.trans one, below⟩

/-- The rarity of a term, in an index of fewer than `2 ^ 64` documents. -/
theorem spans_idf {docFreq docCount : Nat} {idf : Float32} (order : docFreq ≤ docCount)
    (success : similarity.idf docFreq docCount = .ok idf) : Single.Spans 0 7 idf := by
  by_cases fits : docCount + similarity.countOffset < UInt64.size
  · rcases similarity.idf_cases order with ⟨-, same⟩ | ⟨full, -⟩
    · rw [success] at same
      cases same
      exact (Double.spans_ln_add_one (between_share order fits)).narrow (by decide) (by decide)
    · omega
  · rw [Similarity.idf, checkedAdd, if_neg fits] at success
    cases success

theorem spans_tf {freq : Float32} (spans : Single.Spans 0 64 freq) :
    Single.Spans 0 33 (similarity.tf freq) := by
  have root : ∀ {x : Float32}, Single.Spans 0 66 x → Single.Spans 0 33 (narrow (widen x).sqrt) := by
    intro x bounded
    have wide := bounded.widen (by decide) (by decide)
    exact (wide.sqrt (by decide) (by decide) (by decide) (by decide)).narrow (by decide) (by decide)
  cases similarity with
  | classic => exact root (spans.mono (by decide) (by decide))
  | smoothed =>
    apply root
    apply Single.Between.add Single.spans_one spans (onGrid_two_zpow (by decide))
      (onGrid_two_zpow (by decide)) (two_zpow_mono (by decide))
    · norm_num
    · norm_num

theorem spans_queryNorm {first last lower higher : Int} {sum : Float32}
    (spans : Single.Spans first last sum) (above : 2 * lower ≤ first) (below : last ≤ 2 * higher)
    (least : -127 ≤ lower) (most : higher ≤ 127) :
    Single.Spans (-higher) (-lower) (queryNorm sum) := by
  have ordered := Rounding.Spans.ordered spans
  have wide := spans.widen (by omega) (by omega)
  have root := wide.sqrt (by omega) (by omega) above below
  have inverse : Double.Spans (-higher) (-lower) (1.0 / (widen sum).sqrt) :=
    Double.spans_one.div root (by omega) (by omega) (by omega) (by omega)
  exact inverse.narrow (by omega) (by omega)

/-- The share of the parts that match is at most one. -/
theorem spans_coord {matched clauses bits : Nat} (some : 0 < matched) (order : matched ≤ clauses)
    (few : clauses ≤ 2 ^ bits) (short : bits ≤ 24) :
    Single.Spans (-bits) 0 (coord matched clauses) := by
  have fits : 2 ^ bits ≤ 2 ^ 24 := Nat.pow_le_pow_right (by decide) short
  have dividend := Single.between_countToSingle (show matched ≤ 2 ^ 24 by omega)
  have divisor := Single.between_countToSingle (show clauses ≤ 2 ^ 24 by omega)
  have positive : (0 : ℝ) < clauses := Nat.cast_pos.mpr (by omega)
  apply Single.spans_pack _ (by decide)
  apply Rounding.Between.div dividend divisor positive
    (onGrid_two_zpow (by change (-149 : Int) ≤ _; omega)) (onGrid_two_zpow (by decide))
  · rw [zpow_neg, zpow_natCast, ← one_div]
    apply div_le_div₀ (Nat.cast_nonneg matched) (Nat.one_le_cast.mpr some) positive
    exact_mod_cast few
  · rw [zpow_zero, div_le_one positive]
    exact Nat.cast_le.mpr order

end Relevance.Similarity
