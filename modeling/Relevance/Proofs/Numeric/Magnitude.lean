import Relevance.Proofs.Numeric.Arithmetic

set_option autoImplicit false

namespace Relevance

open Float.Model Float.Model.UnpackedFloat

namespace Rounding

variable {format : Format} {a b : UnpackedFloat} {x y : ℝ}

/-- The order of numbers is that of what they stand for. -/
theorem Worth.le_iff (first : Worth format a x) (second : Worth format b y) :
    UnpackedFloat.le a b = true ↔ x ≤ y := by
  unfold UnpackedFloat.le UnpackedFloat.compare
  cases first with
  | zero =>
    cases second with
    | zero => exact iff_of_true rfl (le_refl 0)
    | @finite other higher some =>
      exact iff_of_true rfl
        (mul_nonneg (Nat.cast_nonneg other) (zpow_pos_two higher).le)
  | @finite mantissa exponent positive short least filled =>
    have above : 0 < scaled mantissa exponent :=
      mul_pos (Nat.cast_pos.mpr positive) (zpow_pos_two exponent)
    cases second with
    | zero => exact iff_of_false Bool.false_ne_true (not_le.mpr above)
    | @finite other higher some fits smallest complete =>
      simp only [Option.any_some]
      rcases lt_trichotomy exponent higher with less | same | more
      · rw [Int.compare_eq_lt.mpr less]
        exact iff_of_true rfl (le_of_filled complete short.le least less)
      · rw [same, Int.compare_eq_eq.mpr rfl, Ordering.eq_then, Nat.isLE_compare]
        exact (scaled_le_scaled higher).symm
      · rw [Int.compare_eq_gt.mpr more]
        apply iff_of_false Bool.false_ne_true
        have below := le_of_filled filled fits smallest more
        exact not_le.mpr (((scaled_lt_scaled higher).mpr (Nat.lt_succ_self other)).trans_le below)

theorem onGrid_zero : OnGrid format 0 :=
  ⟨0, format.minExponent, (scaled_zero _).symm, Nat.zero_le _, le_refl _⟩

theorem onGrid_mul {count : Nat} {unit : Int} (few : count ≤ 2 ^ format.mantissaBits)
    (least : format.minExponent ≤ unit) : OnGrid format (count * 2 ^ unit) :=
  ⟨count, unit, rfl, few, least⟩

/-- A count is rounded like any number. -/
theorem rounds_count (n : Nat) :
    Rounds format (UnpackedFloat.normalize format n 0 .positive) n := by
  have exact : scaled n 0 = n := by rw [scaled, zpow_zero, mul_one]
  have rounds : Rounds format (UnpackedFloat.normalize format n 0 .positive) (scaled n 0) :=
    rounds_normalize n 0
  rwa [exact] at rounds

theorem onGrid_natCast {n : Nat} (few : n ≤ 2 ^ format.mantissaBits) : OnGrid format n := by
  have whole := onGrid_mul few (minExponent_le_zero format)
  rwa [zpow_zero, mul_one] at whole

theorem onGrid_two_zpow {exponent : Int} (least : format.minExponent ≤ exponent) :
    OnGrid format (2 ^ exponent) := by
  have one : OnGrid format ((1 : Nat) * 2 ^ exponent) := onGrid_mul Nat.one_le_two_pow least
  rwa [Nat.cast_one, one_mul] at one

variable {low high least most less more : ℝ}

/-- Rounding does not cross a number that the format has. -/
theorem Rounds.between (rounds : Rounds format a x) (lowest : OnGrid format low)
    (highest : OnGrid format high) (above : low ≤ x) (below : x ≤ high) :
    Between format low high a := by
  obtain ⟨rounded, worth, respects⟩ := rounds
  exact ⟨rounded, worth, (respects low lowest).2 above, (respects high highest).1 below⟩

theorem Between.mono (between : Between format least most a) (lower : low ≤ least)
    (higher : most ≤ high) : Between format low high a := by
  obtain ⟨value, worth, above, below⟩ := between
  exact ⟨value, worth, lower.trans above, below.trans higher⟩

theorem Between.high_nonneg (between : Between format low high a) : 0 ≤ high := by
  obtain ⟨value, worth, -, below⟩ := between
  exact worth.nonneg.trans below

theorem Between.regrade {source : Format} (between : Between source low high a)
    (lowest : OnGrid format low) (highest : OnGrid format high) :
    Between format low high (regrade format a) := by
  obtain ⟨value, worth, above, below⟩ := between
  exact worth.regrade.between lowest highest above below

theorem Between.add (first : Between format least most a) (second : Between format less more b)
    (lowest : OnGrid format low) (highest : OnGrid format high) (above : low ≤ least + less)
    (below : most + more ≤ high) : Between format low high (a.add format b) := by
  obtain ⟨value, worth, overFirst, underFirst⟩ := first
  obtain ⟨other, known, overSecond, underSecond⟩ := second
  apply (worth.add known).between lowest highest
  · exact above.trans (add_le_add overFirst overSecond)
  · exact (add_le_add underFirst underSecond).trans below

theorem Between.mul (first : Between format least most a) (second : Between format less more b)
    (positive : 0 ≤ less) (lowest : OnGrid format low) (highest : OnGrid format high)
    (above : low ≤ least * less) (below : most * more ≤ high) :
    Between format low high (a.mul format b) := by
  have some := first.high_nonneg
  obtain ⟨value, worth, overFirst, underFirst⟩ := first
  obtain ⟨other, known, overSecond, underSecond⟩ := second
  apply (worth.mul known).between lowest highest
  · exact above.trans (mul_le_mul overFirst overSecond positive worth.nonneg)
  · exact (mul_le_mul underFirst underSecond known.nonneg some).trans below

theorem Between.div (first : Between format least most a) (second : Between format less more b)
    (positive : 0 < less) (lowest : OnGrid format low)
    (highest : OnGrid format high) (above : low ≤ least / more) (below : most / less ≤ high) :
    Between format low high (a.div format b) := by
  have some := first.high_nonneg
  obtain ⟨value, worth, overFirst, underFirst⟩ := first
  obtain ⟨other, known, overSecond, underSecond⟩ := second
  have real : 0 < other := positive.trans_le overSecond
  apply (worth.div known real).between lowest highest
  · exact above.trans (div_le_div₀ worth.nonneg overFirst real underSecond)
  · exact (div_le_div₀ some underFirst positive overSecond).trans below

theorem Between.sqrt (between : Between format least most a) (lowest : OnGrid format low)
    (highest : OnGrid format high) (above : low ^ 2 ≤ least)
    (some : 0 ≤ high) (below : most ≤ high ^ 2) : Between format low high (a.sqrt format) := by
  obtain ⟨value, worth, overValue, underValue⟩ := between
  apply worth.sqrt.between lowest highest
  · exact Real.le_sqrt_of_sq_le (above.trans overValue)
  · exact Real.sqrt_le_iff.mpr ⟨some, underValue.trans below⟩

theorem two_zpow_mono {lower higher : Int} (order : lower ≤ higher) : (2 : ℝ) ^ lower ≤ 2 ^ higher :=
  zpow_le_zpow_right₀ one_le_two order

theorem natCast_mul_le {count bits : Nat} (few : count ≤ 2 ^ bits) (unit : Int) :
    (count : ℝ) * 2 ^ unit ≤ 2 ^ (unit + bits) := by
  calc (count : ℝ) * 2 ^ unit
      ≤ (2 ^ bits : Nat) * 2 ^ unit := by
        apply mul_le_mul_of_nonneg_right _ (zpow_pos_two unit).le
        exact Nat.cast_le.mpr few
    _ = 2 ^ (unit + bits) := by
        rw [zpow_add₀ two_ne_zero, zpow_natCast]
        push_cast
        ring

variable {lower higher first last start stop : Int}

theorem Spans.ordered (spans : Spans format lower higher a) : lower ≤ higher := by
  obtain ⟨value, -, above, below⟩ := spans
  exact (zpow_le_zpow_iff_right₀ one_lt_two).mp (above.trans below)

theorem Spans.between (spans : Spans format lower higher a) : Between format 0 (2 ^ higher) a :=
  Between.mono spans (zpow_pos_two lower).le (le_refl _)

theorem Spans.mono (spans : Spans format first last a) (above : lower ≤ first)
    (below : last ≤ higher) : Spans format lower higher a :=
  Between.mono spans (two_zpow_mono above) (two_zpow_mono below)

theorem spans_count {n bits : Nat} (positive : 0 < n) (short : n ≤ 2 ^ bits) :
    Spans format 0 bits (UnpackedFloat.normalize format n 0 .positive) := by
  have least := minExponent_le_zero format
  apply (rounds_count n).between (onGrid_two_zpow least) (onGrid_two_zpow (by omega))
  · rw [zpow_zero]
    exact Nat.one_le_cast.mpr positive
  · rw [zpow_natCast]
    exact_mod_cast short

theorem Spans.regrade {source : Format} (spans : Spans source lower higher a)
    (least : format.minExponent ≤ lower) : Spans format lower higher (regrade format a) :=
  Between.regrade spans (onGrid_two_zpow least) (onGrid_two_zpow (least.trans spans.ordered))

theorem Spans.mul (factor : Spans format first last a) (other : Spans format start stop b)
    (least : format.minExponent ≤ lower) (above : lower ≤ first + start)
    (below : last + stop ≤ higher) : Spans format lower higher (a.mul format b) := by
  have ordered : lower ≤ higher := by
    have own := factor.ordered
    have its := other.ordered
    omega
  apply Between.mul factor other (zpow_pos_two start).le (onGrid_two_zpow least)
    (onGrid_two_zpow (least.trans ordered))
  · rw [← zpow_add₀ two_ne_zero]
    exact two_zpow_mono above
  · rw [← zpow_add₀ two_ne_zero]
    exact two_zpow_mono below

theorem Spans.div (dividend : Spans format first last a) (divisor : Spans format start stop b)
    (least : format.minExponent ≤ lower) (above : lower ≤ first - stop)
    (below : last - start ≤ higher) : Spans format lower higher (a.div format b) := by
  have ordered : lower ≤ higher := by
    have own := dividend.ordered
    have its := divisor.ordered
    omega
  apply Between.div dividend divisor (zpow_pos_two start) (onGrid_two_zpow least)
    (onGrid_two_zpow (least.trans ordered))
  · rw [← zpow_sub₀ two_ne_zero]
    exact two_zpow_mono above
  · rw [← zpow_sub₀ two_ne_zero]
    exact two_zpow_mono below

theorem Spans.sqrt (spans : Spans format first last a) (least : format.minExponent ≤ lower)
    (above : 2 * lower ≤ first) (below : last ≤ 2 * higher) :
    Spans format lower higher (a.sqrt format) := by
  have ordered : lower ≤ higher := by
    have own := spans.ordered
    omega
  have square : ∀ exponent : Int, ((2 : ℝ) ^ exponent) ^ 2 = 2 ^ (2 * exponent) := by
    intro exponent
    rw [Int.mul_comm, zpow_mul, zpow_ofNat]
  apply Between.sqrt spans (onGrid_two_zpow least) (onGrid_two_zpow (least.trans ordered))
  · rw [square]
    exact two_zpow_mono above
  · exact (zpow_pos_two higher).le
  · rw [square]
    exact two_zpow_mono below

/-- Every number lies between a power of two and the next one. -/
theorem Spans.exists_binade (spans : Spans format lower higher a) :
    ∃ place, lower ≤ place ∧ Spans format place (place + 1) a ∧ Spans format place higher a := by
  obtain ⟨value, worth, above, below⟩ := spans
  have positive := (zpow_pos_two lower).trans_le above
  obtain ⟨place, low, high⟩ := exists_mem_Ico_zpow positive one_lt_two
  refine ⟨place, ?_, ⟨value, worth, low, high.le⟩, value, worth, low, below⟩
  have less := above.trans_lt high
  rw [zpow_lt_zpow_iff_right₀ one_lt_two] at less
  omega

section
/- Numbers that are added up, each sum packed into the format. One that is small enough is `packed`
without loss. -/

variable {Number : Type} (format) (add : Number → Number → Number)
  (unpack : Number → UnpackedFloat) {limit unit : Int} {parts : List Number} {start : Number}
  {bits : Nat}

/-- The sum of a few numbers is at most as many times as large as the largest of them, and no less
than any one of them. -/
theorem Between.foldl_add {count : Nat}
    (packed : ∀ {x y : Number} {low high : ℝ},
      Between format low high ((unpack x).add format (unpack y)) → high ≤ 2 ^ limit →
        Between format low high (unpack (add x y)))
    (least : format.minExponent ≤ unit) (finite : unit + bits ≤ limit)
    (short : bits ≤ format.mantissaBits) (few : count + parts.length ≤ 2 ^ bits)
    (lowest : OnGrid format low) (first : Between format 0 (count * 2 ^ unit) (unpack start))
    (each : ∀ part ∈ parts, Between format 0 (2 ^ unit) (unpack part))
    (some : Between format low (count * 2 ^ unit) (unpack start) ∨
      ∃ part ∈ parts, Between format low (2 ^ unit) (unpack part)) :
    Between format low ((count + parts.length : Nat) * 2 ^ unit)
      (unpack (parts.foldl add start)) := by
  induction parts generalizing start count with
  | nil =>
    rcases some with reached | ⟨part, member, -⟩
    · exact reached
    · cases member
  | cons part rest ih =>
    rw [List.forall_mem_cons] at each
    rw [List.length_cons] at few
    have room : ((count + 1 : Nat) : ℝ) * 2 ^ unit ≤ 2 ^ limit :=
      (natCast_mul_le (by omega) unit).trans (two_zpow_mono finite)
    have fits : 2 ^ bits ≤ 2 ^ format.mantissaBits := Nat.pow_le_pow_right (by decide) short
    have highest : OnGrid format ((count + 1 : Nat) * 2 ^ unit) :=
      onGrid_mul (show count + 1 ≤ 2 ^ format.mantissaBits by omega) least
    have more : (count : ℝ) * 2 ^ unit + 2 ^ unit ≤ (count + 1 : Nat) * 2 ^ unit := by
      push_cast
      exact le_of_eq (by ring)
    have next : Between format 0 ((count + 1 : Nat) * 2 ^ unit) (unpack (add start part)) :=
      packed (first.add each.1 onGrid_zero highest (by norm_num) more) room
    have length : count + (part :: rest).length = count + 1 + rest.length := by
      rw [List.length_cons]
      omega
    rw [List.foldl_cons, length]
    apply ih (by omega) next each.2
    rcases some with reached | ⟨other, member, reached⟩
    · exact Or.inl (packed (reached.add each.1 lowest highest (add_zero low).ge more) room)
    rcases List.mem_cons.mp member with rfl | later
    · exact Or.inl (packed (first.add reached lowest highest (zero_add low).ge more) room)
    · exact Or.inr ⟨other, later, reached⟩

/-- The sum of a few numbers from zero on. -/
theorem Between.sum
    (packed : ∀ {x y : Number} {low high : ℝ},
      Between format low high ((unpack x).add format (unpack y)) → high ≤ 2 ^ limit →
        Between format low high (unpack (add x y)))
    (zero : Between format 0 0 (unpack start)) (least : format.minExponent ≤ unit)
    (finite : unit + bits ≤ limit) (short : bits ≤ format.mantissaBits)
    (few : parts.length ≤ 2 ^ bits) (lowest : OnGrid format low)
    (each : ∀ part ∈ parts, Between format 0 (2 ^ unit) (unpack part))
    (some : low ≤ 0 ∨ ∃ part ∈ parts, Between format low (2 ^ unit) (unpack part)) :
    Between format low (2 ^ (unit + bits)) (unpack (parts.foldl add start)) := by
  have first : ∀ {low : ℝ}, low ≤ 0 →
      Between format low ((0 : Nat) * 2 ^ unit) (unpack start) := by
    intro low below
    rw [Nat.cast_zero, zero_mul]
    exact zero.mono below (le_refl 0)
  have count : 0 + parts.length ≤ 2 ^ bits := by omega
  have sum := Between.foldl_add format add unpack packed least finite short count lowest
    (first (le_refl 0)) each (some.imp_left first)
  exact sum.mono (le_refl low) (natCast_mul_le count unit)

/-- The sum of a few numbers, and of at least one, between two powers of two. -/
theorem Spans.sum
    (packed : ∀ {x y : Number} {low high : ℝ},
      Between format low high ((unpack x).add format (unpack y)) → high ≤ 2 ^ limit →
        Between format low high (unpack (add x y)))
    (zero : Between format 0 0 (unpack start)) (least : format.minExponent ≤ lower)
    (finite : higher + bits ≤ limit) (short : bits ≤ format.mantissaBits)
    (few : parts.length ≤ 2 ^ bits) (some : parts ≠ [])
    (each : ∀ part ∈ parts, Spans format lower higher (unpack part)) :
    Spans format lower (higher + bits) (unpack (parts.foldl add start)) := by
  obtain ⟨part, member⟩ := List.exists_mem_of_ne_nil _ some
  apply Between.sum format add unpack packed zero
    (least.trans (each part member).ordered) finite short few (onGrid_two_zpow least)
  · intro part member
    exact (each part member).between
  · exact Or.inr ⟨part, member, each part member⟩

end

end Rounding

end Relevance
