import Relevance.Proofs.Numeric.Double
import Relevance.Proofs.Numeric.Magnitude

/-
A single or double that stays within its range is packed without loss, and then the bounds on what
was packed are bounds on the number. Powers of two will do where numbers are multiplied; where they
are added up, their count comes in.
-/

set_option autoImplicit false

namespace Relevance

open Float.Model Float.Model.UnpackedFloat

open Rounding

namespace Single

variable {low high least most less more : ℝ} {x y : Float32}

/-- What is not too large for a single is packed without loss. -/
theorem unpack_pack_of_worth {unpacked : UnpackedFloat} {value : ℝ}
    (worth : Worth .binary32 unpacked value) (small : value ≤ 2 ^ (127 : Int)) :
    (Float32.ofModel (.pack unpacked)).toModel.unpack = unpacked := by
  cases worth with
  | zero => rfl
  | @finite mantissa exponent positive short least filled =>
    have regular : Regular mantissa exponent := ⟨positive, short, least, filled⟩
    apply toModel_unpack_pack regular
    by_contra large
    have leading : 2 ^ 23 ≤ mantissa := regular.leading.resolve_right (by omega)
    have enough : (2 : ℝ) ^ (128 : Int) ≤ scaled mantissa exponent := by
      calc (2 : ℝ) ^ (128 : Int)
          = scaled (2 ^ 23) 105 := by
            rw [scaled]
            norm_num
        _ ≤ scaled mantissa 105 := (scaled_le_scaled 105).mpr leading
        _ ≤ scaled mantissa exponent := by
            apply mul_le_mul_of_nonneg_left _ (Nat.cast_nonneg mantissa)
            exact zpow_le_zpow_right₀ one_le_two (by omega)
    have order : (2 : ℝ) ^ (127 : Int) < 2 ^ (128 : Int) :=
      zpow_lt_zpow_right₀ one_lt_two (by decide)
    exact absurd (order.trans_le (enough.trans small)) (lt_irrefl _)

/-- A single that is not negative lies between two numbers. -/
def Between (low high : ℝ) (x : Float32) : Prop :=
  Rounding.Between .binary32 low high x.toModel.unpack

theorem between_pack {unpacked : UnpackedFloat}
    (between : Rounding.Between .binary32 low high unpacked) (finite : high ≤ 2 ^ (127 : Int)) :
    Between low high (.ofModel (.pack unpacked)) := by
  have same : (Float32.ofModel (.pack unpacked)).toModel.unpack = unpacked := by
    obtain ⟨value, worth, -, below⟩ := between
    exact unpack_pack_of_worth worth (below.trans finite)
  rw [Between, same]
  exact between

theorem between_zero : Between 0 0 0.0 := by
  refine ⟨0, ?_, le_refl 0, le_refl 0⟩
  rw [unpack_zero]
  exact .zero

theorem Between.add (first : Between least most x) (second : Between less more y)
    (lowest : OnGrid .binary32 low) (highest : OnGrid .binary32 high)
    (finite : high ≤ 2 ^ (127 : Int)) (above : low ≤ least + less) (below : most + more ≤ high) :
    Between low high (x + y) :=
  between_pack (Rounding.Between.add first second lowest highest above below) finite

theorem between_sum {unit : Int} {parts : List Float32} {bits : Nat} (least : -149 ≤ unit)
    (finite : unit + bits ≤ 127) (short : bits ≤ 24) (few : parts.length ≤ 2 ^ bits)
    (lowest : OnGrid .binary32 low) (each : ∀ part ∈ parts, Between 0 (2 ^ unit) part)
    (some : low ≤ 0 ∨ ∃ part ∈ parts, Between low (2 ^ unit) part) :
    Between low (2 ^ (unit + bits)) (parts.foldl (· + ·) 0.0) :=
  Rounding.Between.sum .binary32 (· + ·) (fun x : Float32 => x.toModel.unpack) between_pack
    between_zero least finite short few lowest each some

end Single

namespace Double

variable {low high least most less more : ℝ} {x y : Float}

/-- Packing a tiny number and unpacking it again loses nothing. -/
theorem unpack_pack_of_lt {sign : Sign} {mantissa : Nat} {positive : 0 < mantissa}
    (small : mantissa < 2 ^ 52) :
    UnpackedFloat.unpack .binary64
        (UnpackedFloat.pack .binary64 (.finite sign mantissa (-1074) positive)) =
      .finite sign mantissa (-1074) positive := by
  have low : mantissa.log2 < 52 := (Nat.log2_lt (Nat.ne_of_gt positive)).mpr small
  have short : ¬ mantissa.log2 + 1 = Format.binary64.mantissaBits := by
    change ¬ mantissa.log2 + 1 = 53
    omega
  have packed : UnpackedFloat.pack .binary64 (.finite sign mantissa (-1074) positive) =
      packComponents .binary64 sign 0#11 (BitVec.ofNat 52 mantissa) := by
    unfold UnpackedFloat.pack
    exact (if_neg (by decide)).trans (if_neg short)
  have same : (BitVec.ofNat 52 mantissa).toNat = mantissa := by
    rw [BitVec.toNat_ofNat, Nat.mod_eq_of_lt small]
  have nonzero : BitVec.ofNat 52 mantissa ≠ 0#52 := by
    intro zero
    rw [zero] at same
    exact Nat.ne_of_lt positive same
  rw [packed]
  unfold UnpackedFloat.unpack
  simp only [unpackMantissa_packComponents, unpackExponent_packComponents,
    unpackSign_packComponents, Sign.ofBitVec_toBitVec, nonzero, same]
  rfl

/-- What is not too large for a double is packed without loss. -/
theorem unpack_pack_of_worth {unpacked : UnpackedFloat} {value : ℝ}
    (worth : Worth .binary64 unpacked value) (small : value ≤ 2 ^ (900 : Int)) :
    (Float.ofModel (.pack unpacked)).toModel.unpack = unpacked := by
  cases worth with
  | zero => rfl
  | @finite mantissa exponent positive short least filled =>
    change mantissa < 2 ^ 53 at short
    change -1074 ≤ exponent at least
    change 2 ^ 52 ≤ mantissa ∨ exponent = -1074 at filled
    by_cases tiny : mantissa < 2 ^ 52
    · obtain rfl : exponent = -1074 := filled.resolve_left (by omega)
      exact unpack_pack_of_lt tiny
    apply toModel_unpack_pack ⟨by omega, short, least, ?_⟩
    by_contra large
    have enough : (2 : ℝ) ^ (901 : Int) ≤ scaled mantissa exponent := by
      calc (2 : ℝ) ^ (901 : Int)
          ≤ 2 ^ exponent := zpow_le_zpow_right₀ one_le_two (by omega)
        _ ≤ scaled mantissa exponent :=
            le_mul_of_one_le_left (zpow_pos_two exponent).le (Nat.one_le_cast.mpr positive)
    have order : (2 : ℝ) ^ (900 : Int) < 2 ^ (901 : Int) :=
      zpow_lt_zpow_right₀ one_lt_two (by decide)
    exact absurd (order.trans_le (enough.trans small)) (lt_irrefl _)

/-- A double that is not negative lies between two numbers. -/
def Between (low high : ℝ) (x : Float) : Prop :=
  Rounding.Between .binary64 low high x.toModel.unpack

theorem between_pack {unpacked : UnpackedFloat}
    (between : Rounding.Between .binary64 low high unpacked) (finite : high ≤ 2 ^ (900 : Int)) :
    Between low high (.ofModel (.pack unpacked)) := by
  have same : (Float.ofModel (.pack unpacked)).toModel.unpack = unpacked := by
    obtain ⟨value, worth, -, below⟩ := between
    exact unpack_pack_of_worth worth (below.trans finite)
  rw [Between, same]
  exact between

theorem between_zero : Between 0 0 0.0 :=
  ⟨0, .zero, le_refl 0, le_refl 0⟩

/-- Between two powers of two. -/
def Spans (lower higher : Int) (x : Float) : Prop :=
  Rounding.Spans .binary64 lower higher x.toModel.unpack

variable {lower higher first last start stop : Int}

theorem spans_pack {unpacked : UnpackedFloat}
    (spans : Rounding.Spans .binary64 lower higher unpacked) (finite : higher ≤ 900) :
    Spans lower higher (.ofModel (.pack unpacked)) :=
  between_pack spans (two_zpow_mono finite)

theorem Spans.div (dividend : Spans first last x) (divisor : Spans start stop y)
    (least : -1074 ≤ lower) (finite : higher ≤ 900) (above : lower ≤ first - stop)
    (below : last - start ≤ higher) : Spans lower higher (x / y) :=
  spans_pack (Rounding.Spans.div dividend divisor least above below) finite

theorem Spans.sqrt (spans : Spans first last x) (least : -1074 ≤ lower) (finite : higher ≤ 900)
    (above : 2 * lower ≤ first) (below : last ≤ 2 * higher) : Spans lower higher x.sqrt :=
  spans_pack (Rounding.Spans.sqrt spans least above below) finite

theorem spans_sum {parts : List Float} {bits : Nat} (least : -1074 ≤ lower)
    (finite : higher + bits ≤ 900) (short : bits ≤ 53) (few : parts.length ≤ 2 ^ bits)
    (some : parts ≠ []) (each : ∀ part ∈ parts, Spans lower higher part) :
    Spans lower (higher + bits) (parts.foldl (· + ·) 0.0) :=
  Rounding.Spans.sum .binary64 (· + ·) (fun x : Float => x.toModel.unpack) between_pack
    between_zero least finite short few some each

theorem spans_one : Spans 0 0 1.0 := by
  refine ⟨scaled (2 ^ 52) (-52), ?_, ?_⟩
  · rw [unpack_one]
    exact .finite (by decide) (by decide) (Or.inl (by decide))
  · rw [scaled]
    norm_num

theorem spans_countToDouble {n bits : Nat} (positive : 0 < n) (short : n ≤ 2 ^ bits)
    (word : bits ≤ 64) (fits : n < UInt64.size) : Spans 0 bits (countToDouble n) := by
  have count : (UInt64.ofNat n).toNat = n := UInt64.toNat_ofNat_of_lt fits
  change Spans 0 bits (.ofModel (.pack (.normalize .binary64 (UInt64.ofNat n).toNat 0 .positive)))
  rw [count]
  exact spans_pack (spans_count positive short) (by omega)

end Double

namespace Single

/-- Between two powers of two. -/
def Spans (lower higher : Int) (x : Float32) : Prop :=
  Rounding.Spans .binary32 lower higher x.toModel.unpack

variable {lower higher first last start stop : Int} {x y : Float32}

theorem spans_pack {unpacked : UnpackedFloat}
    (spans : Rounding.Spans .binary32 lower higher unpacked) (finite : higher ≤ 127) :
    Spans lower higher (.ofModel (.pack unpacked)) :=
  between_pack spans (two_zpow_mono finite)

theorem Spans.mono (spans : Spans first last x) (above : lower ≤ first) (below : last ≤ higher) :
    Spans lower higher x :=
  Rounding.Spans.mono spans above below

theorem Spans.mul (factor : Spans first last x) (other : Spans start stop y)
    (least : -149 ≤ lower) (finite : higher ≤ 127) (above : lower ≤ first + start)
    (below : last + stop ≤ higher) : Spans lower higher (x * y) :=
  spans_pack (Rounding.Spans.mul factor other least above below) finite

theorem Spans.widen (spans : Spans lower higher x) (least : -1074 ≤ lower)
    (finite : higher ≤ 900) : Double.Spans lower higher (widen x) :=
  Double.spans_pack (Rounding.Spans.regrade spans least) finite

theorem spans_sum {parts : List Float32} {bits : Nat} (least : -149 ≤ lower)
    (finite : higher + bits ≤ 127) (short : bits ≤ 24) (few : parts.length ≤ 2 ^ bits)
    (some : parts ≠ []) (each : ∀ part ∈ parts, Spans lower higher part) :
    Spans lower (higher + bits) (parts.foldl (· + ·) 0.0) :=
  Rounding.Spans.sum .binary32 (· + ·) (fun x : Float32 => x.toModel.unpack) between_pack
    between_zero least finite short few some each

theorem spans_one : Spans 0 0 1.0 := by
  refine ⟨scaled (2 ^ 23) (-23), ?_, ?_⟩
  · rw [unpack_one]
    exact .finite (by decide) (by decide) (Or.inl (by decide))
  · rw [scaled]
    norm_num

/-- A count with at most 24 places is exact. -/
theorem between_countToSingle {n : Nat} (short : n ≤ 2 ^ 24) : Between n n (countToSingle n) := by
  have fits : n < UInt64.size := Nat.lt_of_le_of_lt short (by decide)
  have count : (UInt64.ofNat n).toNat = n := UInt64.toNat_ofNat_of_lt fits
  have grid : OnGrid .binary32 (n : ℝ) := onGrid_natCast short
  change Between n n (.ofModel (.pack (.normalize .binary32 (UInt64.ofNat n).toNat 0 .positive)))
  rw [count]
  apply between_pack ((rounds_count n).between grid grid (le_refl _) (le_refl _))
  calc (n : ℝ)
      ≤ (2 ^ 24 : Nat) := Nat.cast_le.mpr short
    _ ≤ 2 ^ (127 : Int) := by norm_num

theorem spans_countToSingle {n : Nat} (positive : 0 < n) (fits : n < UInt64.size) :
    Spans 0 64 (countToSingle n) := by
  have count : (UInt64.ofNat n).toNat = n := UInt64.toNat_ofNat_of_lt fits
  change Spans 0 64 (.ofModel (.pack (.normalize .binary32 (UInt64.ofNat n).toNat 0 .positive)))
  rw [count]
  have short : n ≤ 2 ^ 64 := fits.le
  exact spans_pack (spans_count positive short) (by decide)

theorem Spans.zero_lt (spans : Spans lower higher x) : 0.0 < x := by
  rw [zero_lt_iff]
  obtain ⟨value, worth, above, -⟩ := spans
  have positive := (zpow_pos_two lower).trans_le above
  unfold Positive
  generalize x.toModel.unpack = unpacked at worth ⊢
  cases worth with
  | zero => exact absurd positive (lt_irrefl 0)
  | finite => exact .finite

theorem Spans.isFinite (spans : Spans lower higher x) : x.isFinite = true := by
  obtain ⟨value, worth, -, -⟩ := spans
  change x.toModel.unpack.isFinite = true
  generalize x.toModel.unpack = unpacked at worth ⊢
  cases worth <;> rfl

theorem isNaN_of_isFinite (finite : x.isFinite = true) : x.isNaN = false := by
  change x.toModel.unpack.isFinite = true at finite
  change x.toModel.unpack.isNaN = false
  generalize x.toModel.unpack = unpacked at finite ⊢
  cases unpacked with
  | notANumber => cases finite
  | infinity => rfl
  | zero => rfl
  | finite => rfl

theorem between_of_eq_pack {mantissa : Nat} {exponent : Int} (positive : 0 < mantissa)
    (same : x = .ofModel (.pack (.finite .positive mantissa exponent positive)))
    (regular : Regular mantissa exponent) (finite : exponent ≤ 104) :
    Between (scaled mantissa exponent) (scaled mantissa exponent) x := by
  refine ⟨scaled mantissa exponent, ?_, le_refl _, le_refl _⟩
  rw [same, toModel_unpack_pack regular finite]
  exact .finite regular.fits regular.least regular.leading

theorem le_of_between {low middle high : ℝ} (first : Between low middle x)
    (second : Between middle high y) : x ≤ y := by
  obtain ⟨value, worth, -, below⟩ := first
  obtain ⟨other, known, above, -⟩ := second
  rw [le_iff, worth.le_iff known]
  exact below.trans above

/-- A number that is compared with positive ones is bounded by them. -/
theorem between_of_le {low least most high : ℝ} {floor ceiling : Float32}
    (first : Between low least floor) (second : Between most high ceiling) (positive : 0 < low)
    (above : floor ≤ x) (below : x ≤ ceiling) : Between low high x := by
  obtain ⟨lowest, worth, overFirst, -⟩ := first
  obtain ⟨highest, known, -, underSecond⟩ := second
  rw [le_iff] at above below
  have regular : ∀ mantissa exponent positive,
      x.toModel.unpack = .finite .positive mantissa exponent positive →
        Worth .binary32 x.toModel.unpack (scaled mantissa exponent) := by
    intro mantissa exponent positive unpacked
    obtain ⟨-, fits, least, leading⟩ := regular_of_toModel unpacked
    rw [unpacked]
    exact .finite fits least leading
  unfold Between Rounding.Between
  generalize x.toModel.unpack = unpacked at above below regular ⊢
  generalize floor.toModel.unpack = bottom at worth above
  generalize ceiling.toModel.unpack = top at known below
  cases unpacked with
  | finite sign mantissa exponent some =>
    cases sign with
    | positive =>
      have own := regular mantissa exponent some rfl
      rw [worth.le_iff own] at above
      rw [own.le_iff known] at below
      exact ⟨_, own, overFirst.trans above, below.trans underSecond⟩
    | negative =>
      cases worth with
      | zero => exact absurd (positive.trans_le overFirst) (lt_irrefl 0)
      | finite => cases above
  | zero sign =>
    cases worth with
    | zero => exact absurd (positive.trans_le overFirst) (lt_irrefl 0)
    | finite => cases above
  | infinity sign =>
    cases sign with
    | positive => cases known <;> cases below
    | negative => cases worth <;> cases above
  | notANumber => cases worth <;> cases above

end Single

namespace Double

variable {lower higher : Int} {x : Float}

theorem Spans.narrow (spans : Spans lower higher x) (least : -149 ≤ lower)
    (finite : higher ≤ 127) : Single.Spans lower higher (narrow x) :=
  Single.spans_pack (Rounding.Spans.regrade spans least) finite

end Double

end Relevance
