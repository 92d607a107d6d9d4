set_option autoImplicit false

namespace Relevance.Norm

/-- Number of bits of a single that a norm leaves out. -/
def droppedBits : Nat := 21

/-- What the leading bits of a single exceed a norm's byte by. -/
def offset : Nat := 48 * 8

/-- Whether the bits are those of a number with a minus sign. -/
def isNegative (bits : UInt32) : Bool :=
  UInt32.size ≤ 2 * bits.toNat

/-- The byte for the bits of a single. Zero and negative numbers have the byte zero, positive
numbers too small have the byte one, and numbers too large the byte 255. -/
def encodeBits (bits : UInt32) : UInt8 :=
  let leading := bits.toNat >>> droppedBits
  if isNegative bits || bits = 0 then 0
  else if leading ≤ offset then 1
  else if offset + 0x100 ≤ leading then 0xff
  else .ofNat (leading - offset)

def encode (x : Float32) : UInt8 :=
  encodeBits x.toBits

def decodeBits (byte : UInt8) : UInt32 :=
  if byte = 0 then 0 else .ofNat ((byte.toNat + offset) <<< droppedBits)

def decode (byte : UInt8) : Float32 :=
  .ofBits (decodeBits byte)

end Relevance.Norm

namespace Relevance

/-- The norms of a field, one byte for each document id from zero on. -/
abbrev NormTable := Array UInt8

/-- The norm of a document. Documents past the end have none, which reads as zero. -/
def NormTable.norm (table : NormTable) (doc : Nat) : UInt8 :=
  table.getD doc 0

/-- The table with zeros at the end, so that it has a place for a document. -/
def NormTable.grow (table : NormTable) (doc : Nat) : NormTable :=
  table ++ Array.replicate (doc + 1 - table.size) 0

end Relevance
