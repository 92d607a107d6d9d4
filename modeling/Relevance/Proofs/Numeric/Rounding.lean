import Relevance.Proofs.Numeric.Signs

set_option autoImplicit false

namespace Relevance.Rounding

open Float.Model Float.Model.UnpackedFloat

/-- The number that a mantissa at an exponent stands for. -/
noncomputable def scaled (mantissa : Nat) (exponent : Int) : ℝ :=
  mantissa * 2 ^ exponent

theorem zpow_pos_two (exponent : Int) : (0 : ℝ) < 2 ^ exponent :=
  zpow_pos two_pos exponent

theorem scaled_le_scaled {mantissa other : Nat} (exponent : Int) :
    scaled mantissa exponent ≤ scaled other exponent ↔ mantissa ≤ other := by
  rw [scaled, scaled, mul_le_mul_iff_of_pos_right (zpow_pos_two exponent), Nat.cast_le]

theorem scaled_lt_scaled {mantissa other : Nat} (exponent : Int) :
    scaled mantissa exponent < scaled other exponent ↔ mantissa < other := by
  rw [scaled, scaled, mul_lt_mul_iff_of_pos_right (zpow_pos_two exponent), Nat.cast_lt]

@[simp] theorem scaled_zero (exponent : Int) : scaled 0 exponent = 0 := by
  rw [scaled, Nat.cast_zero, zero_mul]

/-- Places can be moved from the exponent to the mantissa. -/
theorem scaled_add (mantissa places : Nat) (exponent : Int) :
    scaled mantissa (exponent + places) = scaled (mantissa * 2 ^ places) exponent := by
  rw [scaled, scaled, zpow_add₀ two_ne_zero, zpow_natCast]
  push_cast
  ring

theorem scaled_two_pow (places : Nat) (exponent : Int) :
    scaled (2 ^ places) exponent = 2 ^ (exponent + places) := by
  rw [← Nat.one_mul (2 ^ places), ← scaled_add, scaled, Nat.cast_one, one_mul]

/-- An extended mantissa at an exponent tells where a number is: between the mantissa and the next
one, and at the mantissa just if there are no residual bits. -/
structure Locates (extended : ExtendedMantissa) (exponent : Int) (x : ℝ) : Prop where
  above : scaled extended.mantissa exponent ≤ x
  below : x < scaled (extended.mantissa + 1) exponent
  exact_iff : x = scaled extended.mantissa exponent ↔
    extended.roundBit = false ∧ extended.stickyBit = false

theorem Locates.shiftRightOne {extended : ExtendedMantissa} {exponent : Int} {x : ℝ}
    (locates : Locates extended exponent x) :
    Locates extended.shiftRightOne (exponent + 1) x := by
  obtain ⟨above, below, exact_iff⟩ := locates
  have half : 2 * (extended.mantissa / 2) ≤ extended.mantissa ∧
      extended.mantissa + 1 ≤ 2 * (extended.mantissa / 2 + 1) := by omega
  have lower : scaled (extended.mantissa / 2) (exponent + 1) =
      scaled (extended.mantissa / 2 * 2) exponent := scaled_add _ 1 exponent
  have upper : scaled (extended.mantissa / 2 + 1) (exponent + 1) =
      scaled ((extended.mantissa / 2 + 1) * 2) exponent := scaled_add _ 1 exponent
  refine ⟨?_, ?_, ?_⟩
  · change scaled (extended.mantissa / 2) (exponent + 1) ≤ x
    rw [lower]
    exact ((scaled_le_scaled exponent).mpr (by omega)).trans above
  · change x < scaled (extended.mantissa / 2 + 1) (exponent + 1)
    rw [upper]
    exact below.trans_le ((scaled_le_scaled exponent).mpr (by omega))
  · change x = scaled (extended.mantissa / 2) (exponent + 1) ↔
      (extended.mantissa % 2 != 0) = false ∧ (extended.roundBit || extended.stickyBit) = false
    rw [lower, Bool.or_eq_false_iff, ← exact_iff, bne_eq_false_iff_eq]
    constructor
    · intro same
      have even : extended.mantissa % 2 = 0 := by
        have order := above.trans same.le
        rw [scaled_le_scaled] at order
        omega
      refine ⟨even, ?_⟩
      rw [same]
      congr 1
      omega
    · rintro ⟨even, same⟩
      rw [same]
      congr 1
      omega

theorem Locates.shiftRight {extended : ExtendedMantissa} {exponent : Int} {x : ℝ}
    (locates : Locates extended exponent x) (places : Nat) :
    Locates (extended >>> places) (exponent + places) x := by
  induction places with
  | zero =>
    rw [Int.ofNat_zero, Int.add_zero]
    exact locates
  | succ places ih =>
    rw [Int.natCast_succ, ← Int.add_assoc]
    exact ih.shiftRightOne

/-- Rounding goes up only from a number above the mantissa. -/
theorem Locates.rounded {extended : ExtendedMantissa} {exponent : Int} {x : ℝ}
    (locates : Locates extended exponent x) :
    extended.roundedMantissa = extended.mantissa ∨
      scaled extended.mantissa exponent < x ∧
        extended.roundedMantissa = extended.mantissa + 1 := by
  have bounds := Single.roundedMantissa_bounds extended
  by_cases same : extended.roundedMantissa = extended.mantissa
  · exact Or.inl same
  refine Or.inr ⟨lt_of_le_of_ne locates.above ?_, by omega⟩
  intro exact
  obtain ⟨round, sticky⟩ := locates.exact_iff.mp exact.symm
  apply same
  rw [ExtendedMantissa.roundedMantissa]
  obtain ⟨mantissa, _, _⟩ := extended
  cases round
  cases sticky
  rfl

variable {format : Format}

/-- The numbers that a format has, the largest exponents aside: those with a mantissa that is short
enough at an exponent that is not too small. -/
def OnGrid (format : Format) (x : ℝ) : Prop :=
  ∃ (mantissa : Nat) (exponent : Int), x = scaled mantissa exponent ∧
    mantissa ≤ 2 ^ format.mantissaBits ∧ format.minExponent ≤ exponent

/-- A mantissa has all its places, or has the least exponent. -/
def Filled (format : Format) (mantissa : Nat) (exponent : Int) : Prop :=
  2 ^ (format.mantissaBits - 1) ≤ mantissa ∨ exponent = format.minExponent

theorem mantissaBits_pos (format : Format) : 1 < format.mantissaBits := by
  have positive := format.hm
  unfold Format.mantissaBits
  omega

/-- A number of the format that lies below the exponent of a filled mantissa lies below the mantissa
too. -/
theorem le_of_filled {mantissa other : Nat} {exponent lower : Int}
    (filled : Filled format mantissa exponent) (short : other ≤ 2 ^ format.mantissaBits)
    (least : format.minExponent ≤ lower) (less : lower < exponent) :
    scaled other lower ≤ scaled mantissa exponent := by
  have leading : 2 ^ (format.mantissaBits - 1) ≤ mantissa := by
    rcases filled with leading | same
    · exact leading
    · omega
  obtain ⟨places, reached⟩ : ∃ places : Nat, exponent = lower + (places + 1 : Nat) :=
    ⟨(exponent - lower - 1).toNat, by omega⟩
  rw [reached, scaled_add, scaled_le_scaled]
  have whole : 2 ^ format.mantissaBits = 2 ^ (format.mantissaBits - 1) * 2 := by
    rw [← Nat.pow_succ]
    congr 1
    have several := mantissaBits_pos format
    omega
  have even : 2 ≤ 2 ^ (places + 1) := Nat.le_self_pow (Nat.succ_ne_zero places) 2
  calc other
      ≤ 2 ^ (format.mantissaBits - 1) * 2 := whole ▸ short
    _ ≤ mantissa * 2 ^ (places + 1) := Nat.mul_le_mul leading even

/-- A rounded mantissa has not crossed any number of the format. -/
theorem Locates.rounded_respects {extended : ExtendedMantissa} {exponent : Int} {x grid : ℝ}
    (locates : Locates extended exponent x) (filled : Filled format extended.mantissa exponent)
    (onGrid : OnGrid format grid) :
    (x ≤ grid → scaled extended.roundedMantissa exponent ≤ grid) ∧
      (grid ≤ x → grid ≤ scaled extended.roundedMantissa exponent) := by
  obtain ⟨other, lower, rfl, short, least⟩ := onGrid
  have grown : scaled extended.mantissa exponent ≤ scaled extended.roundedMantissa exponent :=
    (scaled_le_scaled exponent).mpr (Single.roundedMantissa_bounds extended).1
  by_cases coarse : exponent ≤ lower
  · -- the other number is a multiple of the last place
    obtain ⟨places, reached⟩ : ∃ places : Nat, lower = exponent + places :=
      ⟨(lower - exponent).toNat, by omega⟩
    rw [reached, scaled_add]
    constructor
    · intro below
      rcases locates.rounded with same | ⟨above, up⟩
      · rw [same]
        exact locates.above.trans below
      · rw [up, scaled_le_scaled]
        exact (scaled_lt_scaled exponent).mp (above.trans_le below)
    · intro above
      have less := above.trans_lt locates.below
      rw [scaled_lt_scaled] at less
      exact ((scaled_le_scaled exponent).mpr (Nat.le_of_lt_succ less)).trans grown
  · have small := le_of_filled filled short least (not_le.mp coarse)
    constructor
    · intro below
      rcases locates.rounded with same | ⟨above, -⟩
      · rw [same]
        exact locates.above.trans below
      · exact absurd (above.trans_le (below.trans small)) (lt_irrefl _)
    · exact fun _ => small.trans grown

/-- What a format can make of a number that is not negative. -/
inductive Worth (format : Format) : UnpackedFloat → ℝ → Prop
  | zero : Worth format (.zero .positive) 0
  | finite {mantissa : Nat} {exponent : Int} {positive : 0 < mantissa}
    (short : mantissa < 2 ^ format.mantissaBits) (least : format.minExponent ≤ exponent)
    (filled : Filled format mantissa exponent) :
    Worth format (.finite .positive mantissa exponent positive) (scaled mantissa exponent)

/-- A datum stands for a number that is not negative and lies between two others. -/
def Between (format : Format) (low high : ℝ) (unpacked : UnpackedFloat) : Prop :=
  ∃ value, Worth format unpacked value ∧ low ≤ value ∧ value ≤ high

/-- A datum stands for a number between two powers of two. -/
def Spans (format : Format) (lower higher : Int) (unpacked : UnpackedFloat) : Prop :=
  Between format (2 ^ lower) (2 ^ higher) unpacked

/-- A rounded number is on the same side of every number of the format. -/
def Respects (format : Format) (x rounded : ℝ) : Prop :=
  ∀ grid, OnGrid format grid → (x ≤ grid → rounded ≤ grid) ∧ (grid ≤ x → grid ≤ rounded)

/-- The mantissa before rounding has all its places. -/
theorem filled_of_target {mantissa : Nat} {exponent target : Int}
    (aimed : format.targetExponent (totalExponent mantissa exponent) = target)
    (enough : exponent ≤ target) :
    Filled format (mantissa / 2 ^ (target - exponent).toNat) target ∧
      mantissa / 2 ^ (target - exponent).toNat < 2 ^ format.mantissaBits := by
  have several := mantissaBits_pos format
  have top : mantissa < 2 ^ (mantissa.log2 + 1) := Nat.lt_log2_self
  unfold Format.targetExponent totalExponent at aimed
  constructor
  · by_cases least : target = format.minExponent
    · exact Or.inr least
    left
    have nonzero : mantissa ≠ 0 := by
      rintro rfl
      rw [Nat.log2_zero] at aimed
      omega
    rw [Nat.le_div_iff_mul_le (Nat.two_pow_pos _), ← Nat.pow_add]
    apply le_trans _ (Nat.log2_self_le nonzero)
    apply Nat.pow_le_pow_right (by decide)
    omega
  · rw [Nat.div_lt_iff_lt_mul (Nat.two_pow_pos _), ← Nat.pow_add]
    apply top.trans_le
    apply Nat.pow_le_pow_right (by decide)
    omega

theorem Filled.mono {mantissa larger : Nat} {exponent : Int}
    (filled : Filled format mantissa exponent) (order : mantissa ≤ larger) :
    Filled format larger exponent :=
  filled.imp_left order.trans'

/-- The mantissa after rounding stays, or has carried, so that the exponent moves up by one. -/
theorem worth_settled {mantissa : Nat} {exponent : Int}
    (short : mantissa ≤ 2 ^ format.mantissaBits) (least : format.minExponent ≤ exponent)
    (filled : Filled format mantissa exponent) :
    Worth format
      (if h : (shiftToTargetExponent format mantissa exponent .exact).1.mantissa = 0 then
        .zero .positive
      else
        .finite .positive (shiftToTargetExponent format mantissa exponent .exact).1.mantissa
          (shiftToTargetExponent format mantissa exponent .exact).2 (Nat.pos_of_ne_zero h))
      (scaled mantissa exponent) := by
  have several := mantissaBits_pos format
  rcases Nat.lt_or_eq_of_le short with fits | full
  · have stays : (format.targetExponent (totalExponent mantissa exponent) - exponent).toNat = 0 := by
      have places : mantissa.log2 < format.mantissaBits := by
        by_cases zero : mantissa = 0
        · rw [zero, Nat.log2_zero]
          omega
        · exact (Nat.log2_lt zero).mpr fits
      unfold Format.targetExponent totalExponent
      omega
    have same : shiftToTargetExponent format mantissa exponent .exact =
        (⟨mantissa, false, false⟩, exponent) := by
      unfold shiftToTargetExponent shiftToExponent
      simp only [stays, Int.ofNat_zero, Int.add_zero]
      rfl
    simp only [same]
    split
    · rename_i zero
      rw [zero, scaled_zero]
      exact .zero
    · exact .finite fits least filled
  · have moves : (format.targetExponent (totalExponent mantissa exponent) - exponent).toNat = 1 := by
      rw [full]
      unfold Format.targetExponent totalExponent
      rw [Nat.log2_two_pow]
      omega
    have carried : shiftToTargetExponent format mantissa exponent .exact =
        (⟨2 ^ format.mantissaBits / 2, 2 ^ format.mantissaBits % 2 != 0, false⟩, exponent + 1) := by
      unfold shiftToTargetExponent shiftToExponent
      simp only [moves]
      rw [full]
      rfl
    have half : 2 ^ format.mantissaBits = 2 ^ (format.mantissaBits - 1) * 2 := by
      rw [← Nat.pow_succ]
      congr 1
      omega
    have quotient : 2 ^ format.mantissaBits / 2 = 2 ^ (format.mantissaBits - 1) := by
      rw [half, Nat.mul_div_cancel _ two_pos]
    have positive := Nat.two_pow_pos (format.mantissaBits - 1)
    have value : scaled mantissa exponent =
        scaled (2 ^ (format.mantissaBits - 1)) (exponent + (1 : Nat)) := by
      rw [scaled_add, full, half, Nat.pow_one]
    rw [value]
    simp only [carried, quotient, Nat.ne_of_gt positive, ↓reduceDIte]
    exact .finite (by omega) (by omega) (Or.inl (Nat.le_refl _))

/-- A datum is what rounding makes of a number: a number of the format on the same side of all the
numbers of the format. -/
def Rounds (format : Format) (unpacked : UnpackedFloat) (x : ℝ) : Prop :=
  ∃ rounded, Worth format unpacked rounded ∧ Respects format x rounded

theorem Worth.rounds {unpacked : UnpackedFloat} {x : ℝ} (worth : Worth format unpacked x) :
    Rounds format unpacked x :=
  ⟨x, worth, fun _ _ => ⟨id, id⟩⟩

theorem rounds_roundWithAccuracy {mantissa : Nat} {exponent : Int} {accuracy : Accuracy} {x : ℝ}
    (locates : Locates (.ofMantissaAndAccuracy mantissa accuracy) exponent x)
    (enough : exponent ≤ format.targetExponent (totalExponent mantissa exponent)) :
    Rounds format (roundWithAccuracy format .positive mantissa exponent accuracy) x := by
  obtain ⟨target, aimed⟩ : ∃ target,
      format.targetExponent (totalExponent mantissa exponent) = target := ⟨_, rfl⟩
  rw [aimed] at enough
  obtain ⟨places, amount⟩ : ∃ places, (target - exponent).toNat = places := ⟨_, rfl⟩
  obtain ⟨filled, short⟩ := filled_of_target aimed enough
  have least : format.minExponent ≤ target := aimed ▸ le_max_right _ _
  have reached : exponent + places = target := by omega
  obtain ⟨extended, shifted⟩ : ∃ extended,
      ExtendedMantissa.ofMantissaAndAccuracy mantissa accuracy >>> places = extended := ⟨_, rfl⟩
  have located := locates.shiftRight places
  rw [shifted, reached] at located
  have whole : extended.mantissa = mantissa / 2 ^ places := by
    rw [← shifted, Single.shiftRight_mantissa, Single.mantissa_ofMantissaAndAccuracy]
  rw [amount, ← whole] at filled short
  have first : shiftToTargetExponent format mantissa exponent accuracy = (extended, target) := by
    unfold shiftToTargetExponent shiftToExponent
    simp only [aimed, amount, shifted, reached]
  have bounds := Single.roundedMantissa_bounds extended
  refine ⟨scaled extended.roundedMantissa target, ?_, fun grid => located.rounded_respects filled⟩
  have settled := worth_settled (Nat.le_trans bounds.2 short) least (filled.mono bounds.1)
  unfold roundWithAccuracy
  simp only [first]
  exact settled

theorem locates_exact (mantissa : Nat) (exponent : Int) :
    Locates (.ofMantissaAndAccuracy mantissa .exact) exponent (scaled mantissa exponent) where
  above := le_refl _
  below := (scaled_lt_scaled exponent).mpr (Nat.lt_succ_self mantissa)
  exact_iff := ⟨fun _ => ⟨rfl, rfl⟩, fun _ => rfl⟩

theorem rounds_round {mantissa : Nat} (positive : 0 < mantissa) (exponent : Int) :
    Rounds format (UnpackedFloat.round format .positive mantissa exponent)
      (scaled mantissa exponent) := by
  obtain ⟨places, amount⟩ : ∃ places,
      (exponent - format.targetExponent (totalExponent mantissa exponent)).toNat = places :=
    ⟨_, rfl⟩
  have same : scaled mantissa exponent = scaled (mantissa * 2 ^ places) (exponent - places) := by
    rw [← scaled_add, Int.sub_add_cancel]
  have total : totalExponent (mantissa * 2 ^ places) (exponent - places) =
      totalExponent mantissa exponent := by
    unfold totalExponent
    rw [Single.log2_mul_two_pow positive]
    omega
  unfold UnpackedFloat.round decreaseExponent
  simp only [amount, Nat.shiftLeft_eq]
  rw [same]
  apply rounds_roundWithAccuracy (locates_exact _ _)
  rw [total]
  omega

theorem rounds_normalize (mantissa : Nat) (exponent : Int) :
    Rounds format (UnpackedFloat.normalize format mantissa exponent .positive)
      (scaled mantissa exponent) := by
  rcases Nat.eq_zero_or_pos mantissa with rfl | positive
  · rw [scaled_zero]
    exact Worth.zero.rounds
  · have above : compare (mantissa : Int) 0 = .gt := Int.compare_eq_gt.mpr (by omega)
    unfold UnpackedFloat.normalize
    simp only [above, Int.toNat_natCast]
    exact rounds_round positive exponent

end Relevance.Rounding
