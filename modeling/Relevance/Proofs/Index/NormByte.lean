import Relevance.Index.Norm
import Relevance.Proofs.Numeric.Order

set_option autoImplicit false

namespace Relevance.Norm

open Single

theorem isNegative_iff (bits : UInt32) : isNegative bits = true ↔ 2 ^ 31 ≤ bits.toNat := by
  rw [isNegative, decide_eq_true_iff]
  change 2 ^ 32 ≤ _ ↔ _
  omega

/-- The byte of a number is cut out of the place where the number stands. -/
theorem toNat_encode (x : Float32) :
    ((encode x).toNat : Int) =
      if 0 < orderKey x then max 1 (min 255 (orderKey x / 2 ^ droppedBits - offset)) else 0 := by
  have bounded : x.toBits.toNat < 2 ^ 32 := x.toBits.toNat_lt
  rw [encode, encodeBits]
  simp only [Nat.shiftRight_eq_div_pow, droppedBits, offset]
  by_cases minus : 2 ^ 31 ≤ x.toBits.toNat
  · rw [if_pos (by simp [(isNegative_iff _).mpr minus]), orderKey_of_le minus, if_neg (by omega)]
    rfl
  rw [orderKey_of_lt (by omega)]
  by_cases zero : x.toBits = 0
  · rw [if_pos (by simp [zero]), zero]
    rfl
  have positive : 0 < x.toBits.toNat := by
    apply Nat.pos_of_ne_zero
    intro none
    exact zero (UInt32.toNat_inj.mp none)
  have negative : isNegative x.toBits = false := by
    rw [← Bool.not_eq_true, isNegative_iff]
    exact minus
  rw [if_neg (by simp [negative, zero]), if_pos (show (0 : Int) < x.toBits.toNat by omega)]
  by_cases tiny : x.toBits.toNat / 2 ^ 21 ≤ 48 * 8
  · rw [if_pos tiny]
    change (1 : Int) = _
    omega
  by_cases huge : 48 * 8 + 0x100 ≤ x.toBits.toNat / 2 ^ 21
  · rw [if_neg tiny, if_pos huge]
    change (255 : Int) = _
    omega
  · rw [if_neg tiny, if_neg huge, UInt8.toNat_ofNat']
    omega

theorem toNat_decodeBits (byte : UInt8) :
    (decodeBits byte).toNat = if byte = 0 then 0 else (byte.toNat + offset) * 2 ^ droppedBits := by
  have bounded : byte.toNat < 2 ^ 8 := byte.toNat_lt
  rw [decodeBits]
  split
  · rfl
  · rw [UInt32.toNat_ofNat', Nat.shiftLeft_eq]
    simp only [droppedBits, offset]
    omega

theorem toNat_decodeBits_lt (byte : UInt8) : (decodeBits byte).toNat < 640 * 2 ^ 21 := by
  have bounded : byte.toNat < 2 ^ 8 := byte.toNat_lt
  rw [toNat_decodeBits, droppedBits, offset]
  split <;> omega

theorem orderKey_decode (byte : UInt8) :
    orderKey (decode byte) =
      if byte = 0 then 0 else (byte.toNat + offset : Nat) * (2 : Int) ^ droppedBits := by
  have bounded := toNat_decodeBits_lt byte
  have bits : (decode byte).toBits = decodeBits byte := toBits_ofBits (by omega)
  rw [orderKey_of_lt (by rw [bits]; omega), bits, toNat_decodeBits]
  split
  · rfl
  · push_cast
    rfl

theorem isNaN_decode (byte : UInt8) : (decode byte).isNaN = false := by
  have bounded := toNat_decodeBits_lt byte
  exact isNaN_ofBits (by omega)

/-- Encoding undoes decoding, so that no two bytes stand for one number. -/
theorem encode_decode (byte : UInt8) : encode (decode byte) = byte := by
  have bounded : byte.toNat < 2 ^ 8 := byte.toNat_lt
  apply UInt8.toNat_inj.mp
  apply Int.ofNat_inj.mp
  rw [toNat_encode, orderKey_decode]
  split
  · rename_i zero
    rw [zero]
    rfl
  · rename_i nonzero
    have positive : byte.toNat ≠ 0 := by
      intro none
      exact nonzero (UInt8.toNat_inj.mp none)
    rw [droppedBits, offset]
    omega

/-- Larger numbers have no smaller byte. -/
theorem encode_le_encode {x y : Float32} (below : x ≤ y) : encode x ≤ encode y := by
  have keys := max_orderKey_of_le below
  have first := toNat_encode x
  have second := toNat_encode y
  rw [droppedBits, offset] at first second
  rw [UInt8.le_iff_toNat_le]
  split at first <;> split at second <;> omega

/-- A number is no less than what its byte stands for, except that small ones have the byte one. -/
theorem decode_encode_le {x : Float32} (number : x.isNaN = false) (least : decode 1 ≤ x) :
    decode (encode x) ≤ x := by
  apply le_of_orderKey_le (isNaN_decode _) number
  have above := max_orderKey_of_le least
  have byte := toNat_encode x
  rw [orderKey_decode, if_neg (by decide)] at above
  change max ((385 : Int) * 2 ^ 21) 0 ≤ _ at above
  rw [droppedBits, offset, if_pos (by omega)] at byte
  rw [orderKey_decode, droppedBits, offset]
  split <;> omega

theorem orderKey_zero : orderKey 0.0 = 0 := by decide +kernel

theorem encode_eq_zero {x : Float32} (below : x ≤ 0.0) : encode x = 0 := by
  have keys := max_orderKey_of_le below
  rw [orderKey_zero] at keys
  have byte := toNat_encode x
  rw [if_neg (by omega)] at byte
  exact UInt8.toNat_inj.mp (Int.ofNat_inj.mp byte)

theorem encode_eq_one {x : Float32} (positive : 0.0 < x) (small : x < decode 1) : encode x = 1 := by
  have low := orderKey_lt_of_lt positive
  have zero := orderKey_zero
  have high := orderKey_lt_of_lt small
  rw [orderKey_decode, if_neg (by decide)] at high
  change _ < (385 : Int) * 2 ^ 21 at high
  have byte := toNat_encode x
  rw [droppedBits, offset, if_pos (by omega)] at byte
  exact UInt8.toNat_inj.mp (Int.ofNat_inj.mp (by change _ = (1 : Int); omega))

theorem encode_eq_last {x : Float32} (above : decode 0xff < x) : encode x = 0xff := by
  have high := orderKey_lt_of_lt above
  rw [orderKey_decode, if_neg (by decide)] at high
  change (639 : Int) * 2 ^ 21 < _ at high
  have byte := toNat_encode x
  rw [droppedBits, offset, if_pos (by omega)] at byte
  exact UInt8.toNat_inj.mp (Int.ofNat_inj.mp (by change _ = (255 : Int); omega))

/-- The byte of a number is that of the greatest number no larger than it which a byte stands for.
Numbers up to zero have the byte zero, and those between zero and the least number of a byte have
the byte one. -/
theorem encode_floor (x : Float32) (number : x.isNaN = false) :
    (x ≤ 0.0 → encode x = 0) ∧
      (0.0 < x → x < decode 1 → encode x = 1) ∧
      (decode 1 ≤ x →
        decode (encode x) ≤ x ∧ ∀ byte, decode byte ≤ x → byte ≤ encode x) ∧
      (∀ y : Float32, y.isNaN = false → x ≤ y → encode x ≤ encode y) ∧
      encode (decode (encode x)) = encode x ∧
      (decode 0xff < x → encode x = 0xff) := by
  refine ⟨encode_eq_zero, encode_eq_one, ?_, ?_, encode_decode _, encode_eq_last⟩
  · intro least
    refine ⟨decode_encode_le number least, ?_⟩
    intro byte below
    rw [← encode_decode byte]
    exact encode_le_encode below
  · intro y _ below
    exact encode_le_encode below

theorem encode_floor_infinity :
    (Float32.ofBits 0x7f800000).isNaN = false ∧ encode (Float32.ofBits 0x7f800000) = 0xff :=
  have number : (Float32.ofBits 0x7f800000).isNaN = false := by decide +kernel
  ⟨number, (encode_floor _ number).2.2.2.2.2 (by decide +kernel)⟩

end Relevance.Norm
