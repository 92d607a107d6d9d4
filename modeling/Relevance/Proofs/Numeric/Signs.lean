import Relevance.Proofs.Numeric.Positive

set_option autoImplicit false

namespace Relevance.Single

open Float.Model Float.Model.UnpackedFloat

/-- The sign of what a number is unpacked into; what is not a number has none. -/
def signOf : UnpackedFloat → Sign
  | .zero sign => sign
  | .infinity sign => sign
  | .finite sign _ _ _ => sign
  | .notANumber => .positive

/-- A number without a minus sign, or no number. -/
def Unsigned (x : Float32) : Prop :=
  signOf x.toModel.unpack = .positive

theorem unpackSign_pack {unpacked : UnpackedFloat} (plus : signOf unpacked = .positive) :
    unpackSign (UnpackedFloat.pack .binary32 unpacked) = 0#1 := by
  cases unpacked with
  | notANumber => exact unpackSign_packComponents ..
  | infinity sign =>
    cases plus
    exact unpackSign_packComponents ..
  | zero sign =>
    cases plus
    exact unpackSign_packComponents ..
  | finite sign mantissa exponent positive =>
    cases plus
    unfold UnpackedFloat.pack
    simp only
    split
    · exact unpackSign_packComponents ..
    · split <;> exact unpackSign_packComponents ..

theorem signOf_unpack {bits : BitVec Format.binary32.numBits} (plus : unpackSign bits = 0#1) :
    signOf (UnpackedFloat.unpack .binary32 bits) = .positive := by
  unfold UnpackedFloat.unpack
  rw [plus]
  simp only
  split
  · split <;> rfl
  · split
    · split <;> rfl
    · rfl

theorem unsigned_pack {unpacked : UnpackedFloat} (plus : signOf unpacked = .positive) :
    Unsigned (.ofModel (.pack unpacked)) :=
  signOf_unpack (unpackSign_pack plus)

theorem signOf_roundWithAccuracy (format : Format) (sign : Sign) (mantissa : Nat) (exponent : Int)
    (accuracy : Accuracy) :
    signOf (roundWithAccuracy format sign mantissa exponent accuracy) = sign := by
  unfold roundWithAccuracy
  simp only
  split <;> rfl

theorem signOf_square (unpacked : UnpackedFloat) :
    signOf (unpacked.mul .binary32 unpacked) = .positive := by
  cases unpacked with
  | notANumber => rfl
  | infinity sign => cases sign <;> rfl
  | zero sign => cases sign <;> rfl
  | finite sign mantissa exponent positive =>
    rw [UnpackedFloat.mul, signOf_roundWithAccuracy]
    cases sign <;> rfl

theorem unsigned_square (x : Float32) : Unsigned (x * x) :=
  unsigned_pack (signOf_square x.toModel.unpack)

theorem signOf_add {a b : UnpackedFloat} (first : signOf a = .positive)
    (second : signOf b = .positive) : signOf (a.add .binary32 b) = .positive := by
  cases a with
  | notANumber => rfl
  | infinity sign =>
    cases first
    cases b with
    | infinity other =>
      cases second
      rfl
    | _ => rfl
  | zero sign =>
    cases first
    cases b with
    | zero other =>
      cases second
      rfl
    | _ => exact second
  | finite sign mantissa exponent positive =>
    cases first
    cases b with
    | notANumber => rfl
    | infinity other => exact second
    | zero other => rfl
    | finite other otherMantissa otherExponent otherPositive =>
      cases second
      rw [add_finite]
      exact signOf_roundWithAccuracy ..

theorem Unsigned.add {x y : Float32} (first : Unsigned x) (second : Unsigned y) :
    Unsigned (x + y) :=
  unsigned_pack (signOf_add first second)

/-- Adding to zero changes nothing in a number that is not minus zero. -/
theorem zero_add_of_ne {x : Float32} (other : x.toModel.unpack ≠ .zero .negative) :
    0.0 + x = x := by
  change Float32.ofModel (.pack (.add .binary32 (0.0 : Float32).toModel.unpack x.toModel.unpack)) = x
  refine Eq.trans ?_ (ofModel_pack_unpack x)
  congr 2
  rw [unpack_zero]
  generalize x.toModel.unpack = unpacked at other ⊢
  cases unpacked with
  | zero sign =>
    cases sign with
    | positive => rfl
    | negative => exact absurd rfl other
  | _ => rfl

theorem Unsigned.zero_add {x : Float32} (plus : Unsigned x) : 0.0 + x = x := by
  apply zero_add_of_ne
  intro minus
  rw [Unsigned, minus] at plus
  cases plus

theorem unsigned_zero : Unsigned 0.0 := by
  rw [Unsigned, unpack_zero]
  rfl

/-- Numbers that compare as equal, or that are both no numbers. -/
def SameNumber (x y : Float32) : Prop :=
  (x == y) = true ∨ x.isNaN = true ∧ y.isNaN = true

theorem SameNumber.refl (x : Float32) : SameNumber x x := by
  by_cases nan : x = Float32.nan
  · have number : x.isNaN = true := by
      rw [Float32.isNaN_eq_decide_eq_nan]
      exact decide_eq_true nan
    exact Or.inr ⟨number, number⟩
  · exact Or.inl (Float32.beq_self_iff.mpr nan)

theorem SameNumber.symm {x y : Float32} (same : SameNumber x y) : SameNumber y x := by
  rcases same with equal | ⟨first, second⟩
  · exact Or.inl (PartialEquivBEq.symm equal)
  · exact Or.inr ⟨second, first⟩

/-- Zero added to it leaves every number the same, up to the sign of a zero. -/
theorem sameNumber_zero_add (x : Float32) : SameNumber (0.0 + x) x := by
  by_cases minus : x.toModel.unpack = .zero .negative
  · have zero : x = .ofModel (.pack (.zero .negative)) := by
      rw [← minus]
      exact (ofModel_pack_unpack x).symm
    rw [zero]
    exact Or.inl (by decide +kernel)
  · rw [zero_add_of_ne minus]
    exact .refl x

end Relevance.Single
