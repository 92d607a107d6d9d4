import Relevance.Numeric.Precision
import Relevance.Numeric.Shortest

set_option autoImplicit false

namespace Relevance

/-- Where positional writing ends and how an exponent is written. -/
structure Layout where
  /-- The least exponent of a leading digit that is written positionally. -/
  least : Int
  /-- The least exponent of a leading digit above those written positionally. -/
  bound : Int
  /-- Whether a positive exponent carries a sign. -/
  plus : Bool

namespace Layout

/-- Positional form, with at least one digit on both sides of the point. -/
def positional (digits : List Char) (magnitude : Int) : List Char :=
  if magnitude < 0 then
    '0' :: '.' :: (List.replicate (-magnitude - 1).toNat '0' ++ digits)
  else
    let whole := (magnitude + 1).toNat
    let fraction := digits.drop whole
    digits.take whole ++ List.replicate (whole - digits.length) '0' ++
      '.' :: (if fraction.isEmpty then ['0'] else fraction)

/-- One digit before the point, and no point after a single digit. -/
def scientific (layout : Layout) (digits : List Char) (magnitude : Int) : List Char :=
  let sign := if magnitude < 0 then ['-'] else if layout.plus then ['+'] else []
  let point := if digits.length ≤ 1 then [] else '.' :: digits.drop 1
  digits.take 1 ++ point ++ 'e' :: (sign ++ Nat.toDigits 10 magnitude.natAbs)

def write (layout : Layout) (d : Decimal) : List Char :=
  let digits := Nat.toDigits 10 d.digits
  let magnitude := d.exponent + digits.length - 1
  if layout.least ≤ magnitude ∧ magnitude < layout.bound then positional digits magnitude
  else layout.scientific digits magnitude

end Layout

/-- A minus sign in front of negative numbers, zero included. -/
def signText : Float.Model.UnpackedFloat.Sign → String
  | .negative => "-"
  | .positive => ""

/-- Text of a number of any kind, given the texts of those without digits. -/
def Layout.writeDatum (layout : Layout) (format : Float.Model.Format)
    (nan : String) (infinity : Float.Model.UnpackedFloat.Sign → String) : Float.Model.UnpackedFloat → String
  | .notANumber => nan
  | .infinity sign => infinity sign
  | .zero sign => signText sign ++ "0.0"
  | .finite sign mantissa exponent _ =>
    signText sign ++ String.ofList (layout.write (.shortest format mantissa exponent))

/-- Scores are written positionally from `0.0001` up to, but not including, `1e16`. -/
def scoreLayout : Layout := ⟨-4, 16, false⟩

/-- JSON numbers are written positionally from `0.00001` up to, but not including, `1e16`, and a
positive exponent carries its sign. -/
def jsonLayout : Layout := ⟨-5, 16, true⟩

/-- The fewest digits that read back as the same single. -/
def scoreText (x : Float32) : String :=
  scoreLayout.writeDatum .binary32 "NaN" (fun sign => signText sign ++ "inf") x.toModel.unpack

/-- The fewest digits that read back as the same double; JSON has no text for the others. -/
def jsonNumberText (x : Float) : String :=
  jsonLayout.writeDatum .binary64 "null" (fun _ => "null") x.toModel.unpack

/-- Nearest natural number to a quotient, of two equally near ones the even one. -/
def roundDiv (num den : Nat) : Nat :=
  let below := num / den
  let rest := 2 * (num % den)
  if rest < den ∨ (rest = den ∧ below % 2 = 0) then below else below + 1

/-- Decimal digits of a number, filled up with zeros in front. -/
def paddedDigits (width n : Nat) : List Char :=
  let digits := Nat.toDigits 10 n
  List.replicate (width - digits.length) '0' ++ digits

/-- The number with a fixed count of places after the point, rounded from its exact value. -/
def fixedText (places : Nat) (x : Float32) : String :=
  let write (sign : Float.Model.UnpackedFloat.Sign) (units : Nat) :=
    let digits := paddedDigits (places + 1) units
    let whole := digits.length - places
    signText sign ++ String.ofList (digits.take whole ++ '.' :: digits.drop whole)
  match x.toModel.unpack with
  | .notANumber => "NaN"
  | .infinity sign => signText sign ++ "inf"
  | .zero sign => write sign 0
  | .finite sign mantissa exponent _ =>
    let units := mantissa * Nat.pow 10 places
    write sign (roundDiv (units <<< exponent.toNat) (1 <<< (-exponent).toNat))

end Relevance
