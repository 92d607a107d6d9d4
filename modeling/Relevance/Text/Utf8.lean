set_option autoImplicit false

namespace Relevance.Utf8

def encodeChar (c : Char) : List UInt8 :=
  let code := c.toNat
  let low (shift : Nat) := UInt8.ofNat (0x80 + code / shift % 0x40)
  if code < 0x80 then [.ofNat code]
  else if code < 0x800 then [.ofNat (0xc0 + code / 0x40), low 1]
  else if code < 0x10000 then [.ofNat (0xe0 + code / 0x1000), low 0x40, low 1]
  else [.ofNat (0xf0 + code / 0x40000), low 0x1000, low 0x40, low 1]

def encode (text : List Char) : List UInt8 :=
  text.flatMap encodeChar

/-- What a first byte announces: the bits it carries itself, the range of the byte after it, and
how many more bytes come after that one. -/
structure Lead where
  bits : Nat
  low : Nat
  high : Nat
  more : Nat

/-- The bytes that start a character of several bytes. The range of the second byte leaves out
forms longer than needed, surrogates, and codes that are too large. -/
def lead? (byte : Nat) : Option Lead :=
  if 0xc2 ≤ byte ∧ byte ≤ 0xdf then some ⟨byte - 0xc0, 0x80, 0xbf, 0⟩
  else if byte = 0xe0 then some ⟨0, 0xa0, 0xbf, 1⟩
  else if byte = 0xed then some ⟨0xd, 0x80, 0x9f, 1⟩
  else if 0xe1 ≤ byte ∧ byte ≤ 0xef then some ⟨byte - 0xe0, 0x80, 0xbf, 1⟩
  else if byte = 0xf0 then some ⟨0, 0x90, 0xbf, 2⟩
  else if byte = 0xf4 then some ⟨4, 0x80, 0x8f, 2⟩
  else if 0xf1 ≤ byte ∧ byte ≤ 0xf3 then some ⟨byte - 0xf0, 0x80, 0xbf, 2⟩
  else none

/-- Where a reader stands: between characters, or inside one with the bits so far, the range of
the next byte, and the number of bytes after that one. -/
inductive State where
  | between
  | inside (bits low high more : Nat)

def start (byte : UInt8) : Option Char × State :=
  if byte.toNat < 0x80 then (some (.ofNat byte.toNat), .between)
  else match lead? byte.toNat with
    | some lead => (none, .inside lead.bits lead.low lead.high lead.more)
    | none => (some '\ufffd', .between)

/-- Reads every byte, with a replacement character for each ill-formed stretch. -/
def decodeFrom : State → List UInt8 → List Char
  | .between, [] => []
  | .inside .., [] => ['\ufffd']
  | .between, byte :: rest =>
    let (c, state) := start byte
    c.toList ++ decodeFrom state rest
  | .inside bits low high more, byte :: rest =>
    if low ≤ byte.toNat ∧ byte.toNat ≤ high then
      let bits := bits * 0x40 + (byte.toNat - 0x80)
      match more with
      | 0 => .ofNat bits :: decodeFrom .between rest
      | more + 1 => decodeFrom (.inside bits 0x80 0xbf more) rest
    else
      let (c, state) := start byte
      '\ufffd' :: (c.toList ++ decodeFrom state rest)

def decodeLossy (bytes : List UInt8) : List Char :=
  decodeFrom .between bytes

def decode? (bytes : List UInt8) : Option (List Char) :=
  let text := decodeLossy bytes
  if encode text = bytes then some text else none

end Relevance.Utf8
