import Mathlib.Tactic.IntervalCases
import Relevance.Text.Utf8

set_option autoImplicit false

namespace Relevance.Utf8

variable {code bits low high more : Nat}

theorem toNat_byte (small : code < 0x100) : (UInt8.ofNat code).toNat = code := by
  rw [UInt8.toNat_ofNat', Nat.mod_eq_of_lt small]

theorem lead?_two (quotient : Nat) (above : 2 ≤ quotient) (below : quotient < 0x20) :
    lead? (0xc0 + quotient) = some ⟨quotient, 0x80, 0xbf, 0⟩ := by
  rw [lead?, if_pos (by omega), Nat.add_sub_cancel_left]

/-- Three bytes leave out what two bytes have room for, and the surrogates. -/
theorem lead?_three (quotient : Nat) (below : quotient < 0x10) : lead? (0xe0 + quotient) =
    some ⟨quotient, if quotient = 0 then 0xa0 else 0x80, if quotient = 0xd then 0x9f else 0xbf, 1⟩ := by
  interval_cases quotient <;> rfl

/-- Four bytes leave out what three bytes have room for, and what is above the last code. -/
theorem lead?_four (quotient : Nat) (below : quotient < 5) : lead? (0xf0 + quotient) =
    some ⟨quotient, if quotient = 0 then 0x90 else 0x80, if quotient = 4 then 0x8f else 0xbf, 2⟩ := by
  interval_cases quotient <;> rfl

theorem decodeFrom_ascii (small : code < 0x80) (rest : List UInt8) :
    decodeFrom .between (.ofNat code :: rest) = .ofNat code :: decodeFrom .between rest := by
  have same := toNat_byte (show code < 0x100 by omega)
  simp only [decodeFrom, start, same, if_pos small, Option.toList_some, List.singleton_append]

theorem decodeFrom_lead (above : 0x80 ≤ code) (below : code < 0x100)
    (leads : lead? code = some ⟨bits, low, high, more⟩) (rest : List UInt8) :
    decodeFrom .between (.ofNat code :: rest) = decodeFrom (.inside bits low high more) rest := by
  have large : ¬ code < 0x80 := by omega
  simp only [decodeFrom, start, toNat_byte below, if_neg large, leads, Option.toList_none,
    List.nil_append]

theorem decodeFrom_last (small : code < 0x40) (above : low ≤ 0x80 + code)
    (below : 0x80 + code ≤ high) (rest : List UInt8) :
    decodeFrom (.inside bits low high 0) (.ofNat (0x80 + code) :: rest) =
      .ofNat (bits * 0x40 + code) :: decodeFrom .between rest := by
  have same := toNat_byte (show 0x80 + code < 0x100 by omega)
  simp only [decodeFrom, same, if_pos (And.intro above below), Nat.add_sub_cancel_left]

theorem decodeFrom_more (small : code < 0x40) (above : low ≤ 0x80 + code)
    (below : 0x80 + code ≤ high) (rest : List UInt8) :
    decodeFrom (.inside bits low high (more + 1)) (.ofNat (0x80 + code) :: rest) =
      decodeFrom (.inside (bits * 0x40 + code) 0x80 0xbf more) rest := by
  have same := toNat_byte (show 0x80 + code < 0x100 by omega)
  simp only [decodeFrom, same, if_pos (And.intro above below), Nat.add_sub_cancel_left]

theorem decodeFrom_encodeChar (c : Char) (rest : List UInt8) :
    decodeFrom .between (encodeChar c ++ rest) = c :: decodeFrom .between rest := by
  have valid : c.toNat < 0xd800 ∨ 0xdfff < c.toNat ∧ c.toNat < 0x110000 := c.valid
  have back := Char.ofNat_toNat c
  unfold encodeChar
  simp only [Nat.div_one]
  generalize c.toNat = code at valid back
  split
  · rename_i one
    rw [List.singleton_append, decodeFrom_ascii one, back]
  split
  · rename_i two
    have leads := lead?_two (code / 0x40) (by omega) (by omega)
    have whole : code / 0x40 * 0x40 + code % 0x40 = code := by omega
    rw [List.cons_append, List.singleton_append, decodeFrom_lead (by omega) (by omega) leads,
      decodeFrom_last (by omega) (by omega) (by omega), whole, back]
  split
  · rename_i three
    have leads := lead?_three (code / 0x1000) (by omega)
    have whole : (code / 0x1000 * 0x40 + code / 0x40 % 0x40) * 0x40 + code % 0x40 = code := by omega
    rw [List.cons_append, List.cons_append, List.singleton_append,
      decodeFrom_lead (by omega) (by omega) leads,
      decodeFrom_more (by omega) (by split <;> omega) (by split <;> omega),
      decodeFrom_last (by omega) (by omega) (by omega), whole, back]
  · rename_i four
    have leads := lead?_four (code / 0x40000) (by omega)
    have whole : ((code / 0x40000 * 0x40 + code / 0x1000 % 0x40) * 0x40 + code / 0x40 % 0x40) * 0x40 +
        code % 0x40 = code := by omega
    rw [List.cons_append, List.cons_append, List.cons_append, List.singleton_append,
      decodeFrom_lead (by omega) (by omega) leads,
      decodeFrom_more (by omega) (by split <;> omega) (by split <;> omega),
      decodeFrom_more (by omega) (by omega) (by omega),
      decodeFrom_last (by omega) (by omega) (by omega), whole, back]

theorem decodeLossy_encode (text : List Char) : decodeLossy (encode text) = text := by
  unfold decodeLossy encode
  induction text with
  | nil => rfl
  | cons c text ih => rw [List.flatMap_cons, decodeFrom_encodeChar, ih]

/-- A text is read back from its bytes. -/
theorem decode?_encode (text : List Char) : decode? (encode text) = some text := by
  rw [decode?, decodeLossy_encode]
  exact if_pos rfl

end Relevance.Utf8
