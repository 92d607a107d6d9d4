import Relevance.Numeric.Digits

set_option autoImplicit false

namespace Relevance

structure Numeral where
  digits : Nat
  exponent : Int
  deriving DecidableEq, Repr

namespace Numeral

/-- The numeral with the given digits before and after the point. -/
def ofParts (whole fraction : List Char) (exponent : Int) : Numeral :=
  ⟨digitsValue (whole ++ fraction), exponent - fraction.length⟩

/-- An exponent: a sign or none, and at least one digit up to the end. -/
def exponent? (text : List Char) : Option Int :=
  let (negative, digits) := match text with
    | '-' :: rest => (true, rest)
    | '+' :: rest => (false, rest)
    | _ => (false, text)
  if digits.isEmpty || !digits.all Char.isDigit then none
  else some (if negative then -digitsValue digits else digitsValue digits)

/-- Digits with at most one point, at least one digit, and an exponent or none, up to the end. -/
def scan? (text : List Char) : Option Numeral :=
  let whole := text.takeWhile Char.isDigit
  let afterWhole := text.dropWhile Char.isDigit
  let (fraction, rest) := match afterWhole with
    | '.' :: tail => (tail.takeWhile Char.isDigit, tail.dropWhile Char.isDigit)
    | _ => ([], afterWhole)
  if whole.isEmpty && fraction.isEmpty then none
  else match rest with
    | [] => some (ofParts whole fraction 0)
    | mark :: tail =>
      if mark = 'e' ∨ mark = 'E' then (exponent? tail).map (ofParts whole fraction) else none

def toSingle (n : Numeral) : Float32 :=
  Float32.ofScientific n.digits (n.exponent < 0) n.exponent.natAbs

end Numeral

/-- Bits of an unsigned single: infinity and not-a-number by name, in any letter case, or digits. -/
def readMagnitude? (text : List Char) : Option UInt32 :=
  match String.ofList (text.map Char.toLower) with
  | "inf" | "infinity" => some 0x7f800000
  | "nan" => some 0x7fc00000
  | _ => (Numeral.scan? text).map fun n => n.toSingle.toBits

/-- Bits of the single that a text denotes, with one sign or none in front. -/
def readSingleBits? : List Char → Option UInt32
  | '-' :: text => (readMagnitude? text).map (· ||| 0x80000000)
  | '+' :: text => readMagnitude? text
  | text => readMagnitude? text

def readSingle? (text : List Char) : Option Float32 :=
  (readSingleBits? text).map Float32.ofBits

end Relevance
