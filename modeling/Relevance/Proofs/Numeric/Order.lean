import Relevance.Proofs.Numeric.Single
import Relevance.Query.Collector

set_option autoImplicit false

namespace Relevance

open Float.Model Float.Model.UnpackedFloat

theorem orderKey_of_lt {x : Float32} (plus : x.toBits.toNat < 2 ^ 31) :
    orderKey x = x.toBits.toNat :=
  if_pos plus

theorem orderKey_of_le {x : Float32} (minus : 2 ^ 31 ≤ x.toBits.toNat) :
    orderKey x = 2 ^ 31 - 1 - (x.toBits.toNat : Int) :=
  if_neg (Nat.not_lt_of_le minus)

theorem orderKey_injective {x y : Float32} (same : orderKey x = orderKey y) : x = y := by
  have bits : x.toBits.toNat = y.toBits.toNat := by
    by_cases first : x.toBits.toNat < 2 ^ 31 <;> by_cases second : y.toBits.toNat < 2 ^ 31
    · rw [orderKey_of_lt first, orderKey_of_lt second] at same
      omega
    · rw [orderKey_of_lt first, orderKey_of_le (by omega)] at same
      omega
    · rw [orderKey_of_le (by omega), orderKey_of_lt second] at same
      omega
    · rw [orderKey_of_le (by omega), orderKey_of_le (by omega)] at same
      omega
  have back : Float32.ofBits x.toBits = Float32.ofBits y.toBits :=
    congrArg Float32.ofBits (UInt32.toNat_inj.mp bits)
  rwa [Float32.ofBits_toBits, Float32.ofBits_toBits] at back

namespace Single

theorem toNat_unpackMantissa (bits : BitVec Format.binary32.numBits) :
    (unpackMantissa bits).toNat = bits.toNat % 2 ^ 23 := by
  simp [unpackMantissa]

theorem toNat_unpackExponent (bits : BitVec Format.binary32.numBits) :
    (unpackExponent bits).toNat = bits.toNat / 2 ^ 23 % 2 ^ 8 := by
  simp [unpackExponent, Nat.shiftRight_eq_div_pow]

theorem toNat_unpackSign (bits : BitVec Format.binary32.numBits) :
    (unpackSign bits).toNat = bits.toNat / 2 ^ 31 % 2 := by
  simp [unpackSign, Nat.shiftRight_eq_div_pow]

/-- The place of a sign and of what the other bits stand for: the negative ones are mirrored. -/
def signed : Sign → Int → Int
  | .positive, magnitude => magnitude
  | .negative, magnitude => -1 - magnitude

/-- The place of a single in the order, by what it is unpacked into. -/
def place : UnpackedFloat → Int
  | .zero sign => signed sign 0
  | .finite sign mantissa exponent _ => signed sign ((exponent + 149) * 2 ^ 23 + mantissa)
  | .infinity sign => signed sign (255 * 2 ^ 23)
  | .notANumber => signed .positive (255 * 2 ^ 23 + 2 ^ 22)

variable (bits : BitVec Format.binary32.numBits)

theorem signed_unpackSign : signed (.ofBitVec (unpackSign bits)) (bits.toNat % 2 ^ 31 : Nat) =
    if bits.toNat < 2 ^ 31 then (bits.toNat : Int) else 2 ^ 31 - 1 - bits.toNat := by
  have bounded : bits.toNat < 2 ^ 32 := bits.isLt
  have sign := toNat_unpackSign bits
  unfold Sign.ofBitVec
  split
  · rename_i plus
    rw [plus, BitVec.toNat_ofNat] at sign
    rw [signed, if_pos (by omega), Nat.mod_eq_of_lt (by omega)]
  · rename_i minus
    have nonzero : (unpackSign bits).toNat ≠ 0 := by
      intro zero
      exact minus (BitVec.eq_of_toNat_eq zero)
    rw [signed, if_neg (by omega)]
    omega

/-- The bits of a number say where it stands. -/
theorem place_unpack (number : (UnpackedFloat.unpack .binary32 bits).isNaN = false) :
    place (UnpackedFloat.unpack .binary32 bits) =
      signed (.ofBitVec (unpackSign bits)) (bits.toNat % 2 ^ 31 : Nat) := by
  have mantissa := toNat_unpackMantissa bits
  have exponent := toNat_unpackExponent bits
  unfold UnpackedFloat.unpack at number ⊢
  simp only at number ⊢
  split
  · rename_i last
    rw [if_pos last] at number
    rw [last] at exponent
    change 255 = _ at exponent
    split
    · rename_i zero
      rw [zero] at mantissa
      change 0 = _ at mantissa
      rw [place]
      congr 1
      omega
    · rename_i nonzero
      rw [if_neg nonzero] at number
      cases number
  · split
    · rename_i first
      rw [first] at exponent
      change 0 = _ at exponent
      split
      · rename_i zero
        rw [zero] at mantissa
        change 0 = _ at mantissa
        rw [place]
        congr 1
        omega
      · rw [place, mantissa, first]
        congr 1
        change (((0 : Nat) : Int) - (127 + 23) + 1 + 149) * 2 ^ 23 + _ = _
        omega
    · have whole : (1#1 ++ unpackMantissa bits).toNat = 2 ^ 23 + _ := toNat_append_one _
      rw [place, whole, mantissa, exponent]
      congr 1
      change (_ - ((127 : Nat) + (23 : Nat) : Int) + 149) * 2 ^ 23 + _ = _
      omega

/-- Only infinite numbers have the largest exponent. -/
theorem exponent_le_of_unpack {bits : BitVec Format.binary32.numBits} {sign : Sign} {mantissa : Nat}
    {exponent : Int} {positive : 0 < mantissa}
    (unpacked : UnpackedFloat.unpack .binary32 bits = .finite sign mantissa exponent positive) :
    exponent ≤ 104 := by
  have short : (unpackExponent bits).toNat < 2 ^ 8 := (unpackExponent bits).isLt
  unfold UnpackedFloat.unpack at unpacked
  simp only at unpacked
  split at unpacked
  · split at unpacked <;> cases unpacked
  rename_i finite
  have notLast : (unpackExponent bits).toNat ≠ 255 := by
    intro last
    exact finite (BitVec.eq_of_toNat_eq last)
  split at unpacked
  · rename_i zero
    split at unpacked
    · cases unpacked
    · cases unpacked
      rw [zero]
      decide
  · cases unpacked
    change (unpackExponent bits).toNat - ((127 : Nat) + (23 : Nat) : Int) ≤ 104
    omega

/-- The mantissa and exponent of a finite number as one number. -/
theorem magnitude_bounds {mantissa : Nat} {exponent : Int} (regular : Regular mantissa exponent)
    (finite : exponent ≤ 104) :
    0 < (exponent + 149) * 2 ^ 23 + mantissa ∧
      (exponent + 149) * 2 ^ 23 + mantissa < 255 * 2 ^ 23 := by
  have positive := regular.positive
  have fits := regular.fits
  have least := regular.least
  omega

/-- A larger exponent outweighs every mantissa. -/
theorem magnitude_lt {mantissa other : Nat} {exponent higher : Int}
    (regular : Regular mantissa exponent) (above : Regular other higher)
    (less : (compare exponent higher).then (compare mantissa other) = .lt) :
    (exponent + 149) * 2 ^ 23 + mantissa < (higher + 149) * 2 ^ 23 + other := by
  have fits := regular.fits
  have least := regular.least
  rw [Ordering.then_eq_lt] at less
  rcases less with lower | ⟨same, smaller⟩
  · have lower : exponent < higher := Int.compare_eq_lt.mp lower
    have leading := above.leading
    omega
  · have same : exponent = higher := Int.compare_eq_eq.mp same
    have smaller : mantissa < other := Nat.compare_eq_lt.mp smaller
    omega

/-- What a single is unpacked into if it is finite. -/
def Canonical : UnpackedFloat → Prop
  | .finite _ mantissa exponent _ => Regular mantissa exponent ∧ exponent ≤ 104
  | _ => True

theorem canonical_unpack (bits : BitVec Format.binary32.numBits) :
    Canonical (UnpackedFloat.unpack .binary32 bits) := by
  cases unpacked : UnpackedFloat.unpack .binary32 bits with
  | finite sign mantissa exponent positive =>
    exact ⟨regular_of_unpack unpacked, exponent_le_of_unpack unpacked⟩
  | _ => trivial

/-- Finite numbers stand between the infinite ones. -/
theorem Canonical.place_bounds {unpacked : UnpackedFloat} (canonical : Canonical unpacked)
    (number : unpacked ≠ .notANumber) (finite : ∀ sign, unpacked ≠ .infinity sign) :
    -1 - 255 * 2 ^ 23 < place unpacked ∧ place unpacked < 255 * 2 ^ 23 := by
  cases unpacked with
  | notANumber => exact absurd rfl number
  | infinity sign => exact absurd rfl (finite sign)
  | zero sign => cases sign <;> simp only [place, signed] <;> omega
  | finite sign mantissa exponent positive =>
    have bounds := magnitude_bounds canonical.1 canonical.2
    cases sign <;> simp only [place, signed] <;> omega

theorem isNaN_of_compare {a b : UnpackedFloat} {order : Ordering}
    (compared : a.compare b = some order) : a.isNaN = false ∧ b.isNaN = false := by
  cases a <;> cases b <;> first | exact ⟨rfl, rfl⟩ | cases compared

theorem place_lt_place {a b : UnpackedFloat} (first : Canonical a) (second : Canonical b)
    (less : a.compare b = some .lt) : place a < place b := by
  fun_cases UnpackedFloat.compare a b with
  | case1 => cases less
  | case2 => cases a <;> cases less
  | case3 sign other =>
    cases sign <;> cases other <;> cases less
    decide
  | case4 _ number finite =>
    cases b with
    | infinity sign => exact absurd rfl (finite sign)
    | _ => cases less
  | case5 _ number finite => exact (second.place_bounds number finite).1
  | case6 _ number finite => exact (first.place_bounds number finite).2
  | case7 _ number finite =>
    cases a with
    | infinity sign => exact absurd rfl (finite sign)
    | _ => cases less
  | case8 => cases less
  | case9 mantissa exponent positive sign =>
    have bounds := magnitude_bounds first.1 first.2
    cases sign <;> simp only [place, signed] <;> omega
  | case10 sign mantissa exponent positive =>
    have bounds := magnitude_bounds second.1 second.2
    cases sign <;> simp only [place, signed] <;> omega
  | case11 => cases less
  | case12 => cases less
  | case13 mantissa exponent positive other higher above =>
    have reversed : (compare higher exponent).then (compare other mantissa) = .lt := by
      have swapped := Option.some.inj less
      rwa [Ordering.swap_then, Int.compare_swap, Nat.compare_swap] at swapped
    have below := magnitude_lt second.1 first.1 reversed
    simp only [place, signed]
    omega
  | case14 mantissa exponent positive other higher above =>
    have low := magnitude_bounds first.1 first.2
    have high := magnitude_bounds second.1 second.2
    simp only [place, signed]
    omega
  | case15 => cases less
  | case16 mantissa exponent positive other higher above =>
    exact magnitude_lt first.1 second.1 (Option.some.inj less)

/-- Numbers that compare as equal stand in one place, or both are zeros. -/
theorem max_place_of_compare {a b : UnpackedFloat} (same : a.compare b = some .eq) :
    max (place a) 0 = max (place b) 0 := by
  cases a with
  | notANumber => cases same
  | zero sign =>
    cases b with
    | zero other => cases sign <;> cases other <;> rfl
    | notANumber => cases same
    | infinity other => cases other <;> cases same
    | finite other mantissa exponent positive => cases other <;> cases same
  | infinity sign =>
    cases b with
    | infinity other => cases sign <;> cases other <;> first | rfl | cases same
    | _ => cases sign <;> cases same
  | finite sign mantissa exponent positive =>
    cases b with
    | finite other otherMantissa otherExponent otherPositive =>
      have equal : (compare exponent otherExponent).then (compare mantissa otherMantissa) = .eq ∧
          sign = other := by
        cases sign <;> cases other <;> first | cases same | skip
        · exact ⟨Ordering.swap_eq_eq.mp (Option.some.inj same), rfl⟩
        · exact ⟨Option.some.inj same, rfl⟩
      rw [Ordering.then_eq_eq] at equal
      rw [place, place, Int.compare_eq_eq.mp equal.1.1, Nat.compare_eq_eq.mp equal.1.2, equal.2]
    | infinity other => cases sign <;> cases other <;> cases same
    | _ => cases sign <;> cases same

/-- Two numbers compare the other way round if they are exchanged. -/
theorem compare_swap (a b : UnpackedFloat) :
    b.compare a = (a.compare b).map Ordering.swap := by
  cases a with
  | notANumber => cases b <;> rfl
  | zero sign =>
    cases b with
    | infinity other => cases other <;> rfl
    | finite other => cases other <;> rfl
    | _ => rfl
  | infinity sign =>
    cases b with
    | infinity other => cases sign <;> cases other <;> rfl
    | _ => cases sign <;> rfl
  | finite sign mantissa exponent positive =>
    cases b with
    | finite other otherMantissa otherExponent otherPositive =>
      cases sign <;> cases other <;> first | rfl | skip
      · change some _ = some _
        rw [Ordering.swap_swap, Ordering.swap_then, Int.compare_swap, Nat.compare_swap]
      · change some _ = some _
        rw [Ordering.swap_then, Int.compare_swap, Nat.compare_swap]
    | infinity other => cases sign <;> cases other <;> rfl
    | _ => cases sign <;> rfl

theorem isNaN_of_compare_eq_none {a b : UnpackedFloat} (apart : a.compare b = none) :
    a.isNaN = true ∨ b.isNaN = true := by
  cases a with
  | notANumber => exact .inl rfl
  | zero sign =>
    cases b with
    | notANumber => exact .inr rfl
    | zero other => cases apart
    | _ other => cases other <;> cases apart
  | infinity sign =>
    cases b with
    | notANumber => exact .inr rfl
    | infinity other => cases apart
    | _ => cases sign <;> cases apart
  | finite sign =>
    cases b with
    | notANumber => exact .inr rfl
    | zero other => cases sign <;> cases apart
    | _ other => cases sign <;> cases other <;> cases apart

/-- Bits below those of infinity are the bits of a number. -/
theorem unpackExponent_ne {bits : UInt32} (finite : bits.toNat < 255 * 2 ^ 23) :
    @unpackExponent .binary32 bits.toBitVec ≠ -1#_ := by
  intro last
  have exponent := toNat_unpackExponent bits.toBitVec
  rw [last] at exponent
  change 255 = bits.toNat / 2 ^ 23 % 2 ^ 8 at exponent
  omega

theorem toBits_ofBits {bits : UInt32} (finite : bits.toNat < 255 * 2 ^ 23) :
    (Float32.ofBits bits).toBits = bits :=
  congrArg Float32.toBits
    (Float32.ofBits_toBits (.ofModel ⟨bits, ⟨fun last => absurd last (unpackExponent_ne finite)⟩⟩))

theorem isNaN_ofBits {bits : UInt32} (finite : bits.toNat < 255 * 2 ^ 23) :
    (Float32.ofBits bits).isNaN = false := by
  change (UnpackedFloat.unpack .binary32 (Float32.ofBits bits).toBits.toBitVec).isNaN = false
  rw [toBits_ofBits finite, UnpackedFloat.unpack]
  simp only
  rw [if_neg (unpackExponent_ne finite)]
  split
  · split <;> rfl
  · rfl

end Single

theorem orderKey_eq_place {x : Float32} (number : x.isNaN = false) :
    orderKey x = Single.place x.toModel.unpack :=
  ((Single.place_unpack _ number).trans (Single.signed_unpackSign _)).symm

/-- The order of all singles goes along with that of numbers. -/
theorem orderKey_lt_of_lt {x y : Float32} (less : x < y) : orderKey x < orderKey y := by
  have compared : x.toModel.unpack.compare y.toModel.unpack = some .lt := by
    have decided : (x.toModel.unpack.compare y.toModel.unpack == some .lt) = true :=
      of_decide_eq_true less
    exact beq_iff_eq.mp decided
  have numbers := Single.isNaN_of_compare compared
  rw [orderKey_eq_place numbers.1, orderKey_eq_place numbers.2]
  exact Single.place_lt_place (Single.canonical_unpack _) (Single.canonical_unpack _) compared

theorem Single.lt_of_not_le {x y : Float32} (number : x.isNaN = false) (other : y.isNaN = false)
    (notBelow : ¬ x ≤ y) : y < x := by
  have notBelow : ¬ (x.toModel.unpack.compare y.toModel.unpack).any (·.isLE) = true := by
    intro below
    exact notBelow (decide_eq_true below)
  have reversed := Single.compare_swap x.toModel.unpack y.toModel.unpack
  have less : y.toModel.unpack.compare x.toModel.unpack = some .lt := by
    cases compared : x.toModel.unpack.compare y.toModel.unpack with
    | none =>
      rcases Single.isNaN_of_compare_eq_none compared with nan | nan
      · cases number.symm.trans nan
      · cases other.symm.trans nan
    | some order =>
      rw [compared] at reversed notBelow
      cases order with
      | gt => exact reversed
      | _ => exact absurd rfl notBelow
  exact decide_eq_true (beq_iff_eq.mpr less)

theorem le_of_orderKey_le {x y : Float32} (number : x.isNaN = false) (other : y.isNaN = false)
    (below : orderKey x ≤ orderKey y) : x ≤ y := by
  apply Decidable.byContradiction
  intro notBelow
  have above := orderKey_lt_of_lt (Single.lt_of_not_le number other notBelow)
  omega

theorem max_orderKey_of_le {x y : Float32} (below : x ≤ y) :
    max (orderKey x) 0 ≤ max (orderKey y) 0 := by
  have below : (x.toModel.unpack.compare y.toModel.unpack).any (·.isLE) = true :=
    of_decide_eq_true below
  cases compared : x.toModel.unpack.compare y.toModel.unpack with
  | none =>
    rw [compared] at below
    cases below
  | some order =>
    have numbers := Single.isNaN_of_compare compared
    rw [orderKey_eq_place numbers.1, orderKey_eq_place numbers.2]
    rw [compared] at below
    cases order with
    | lt =>
      have less : Single.place x.toModel.unpack < Single.place y.toModel.unpack :=
        Single.place_lt_place (Single.canonical_unpack _) (Single.canonical_unpack _) compared
      omega
    | eq => exact Int.le_of_eq (Single.max_place_of_compare compared)
    | gt => cases below

example : orderKey (-0.0) < orderKey 0.0 := by decide +kernel

end Relevance
