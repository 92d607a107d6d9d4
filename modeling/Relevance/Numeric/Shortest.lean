/-
A binary number stands for the interval of reals that round to it. `Decimal.shortest` finds the
decimal with the fewest digits in that interval, and the nearest one of those: for one digit, two
digits and so on it looks at the two neighbours of the value on the decimal grid, in exact
arithmetic, and stops at the first grid with a neighbour inside the interval.
-/

set_option autoImplicit false

namespace Relevance

structure Decimal where
  digits : Nat
  exponent : Int
  deriving DecidableEq, Repr

def digitCount (n : Nat) : Nat :=
  (Nat.toDigits 10 n).length

/-- The exponent `e` with `10 ^ e ≤ num / den < 10 ^ (e + 1)`. -/
def decimalMagnitude (num den : Nat) : Int :=
  if den ≤ num then digitCount (num / den) - 1
  else -digitCount ((den + num - 1) / num - 1)

/-- A positive binary number and the ends of the interval of reals that round to it, all three
multiples of `2 ^ exponent`. -/
structure RoundingInterval where
  low : Nat
  value : Nat
  high : Nat
  exponent : Int
  /-- Whether the ends themselves round to the value. -/
  closed : Bool

/-- Half a unit to both sides, but a quarter below a power of two, where the spacing halves. -/
def RoundingInterval.of (format : Float.Model.Format) (mantissa : Nat) (exponent : Int) :
    RoundingInterval :=
  let atPowerOfTwo := 
    mantissa = 1 <<< format.mantissaBitsWithoutImplicit ∧ format.minExponent < exponent
  { low := if atPowerOfTwo then 4 * mantissa - 1 else 4 * mantissa - 2
    value := 4 * mantissa
    high := 4 * mantissa + 2
    exponent := exponent - 2
    closed := mantissa % 2 = 0 }

namespace RoundingInterval

/-- Numerator of one unit of the interval, counted in steps of `10 ^ place`. -/
def scale (i : RoundingInterval) (place : Int) : Nat :=
  Nat.pow 10 (-place).toNat <<< i.exponent.toNat

def step (i : RoundingInterval) (place : Int) : Nat :=
  Nat.pow 10 place.toNat <<< (-i.exponent).toNat

/-- Whether `digits * 10 ^ place` lies in the interval. -/
def holds (i : RoundingInterval) (place : Int) (digits : Nat) : Bool :=
  let point := digits * i.step place
  let low := i.low * i.scale place
  let high := i.high * i.scale place
  if i.closed then low ≤ point && point ≤ high else low < point && point < high

/-- The neighbour of the value on the grid of `10 ^ place` that lies in the interval; of two the
nearer one, and of two equally near ones the larger. -/
def onGrid? (i : RoundingInterval) (place : Int) : Option Decimal :=
  let value := i.value * i.scale place
  let below := value / i.step place
  match i.holds place below, i.holds place (below + 1) with
  | true, true =>
    if 2 * value < (2 * below + 1) * i.step place then some ⟨below, place⟩
    else some ⟨below + 1, place⟩
  | true, false => some ⟨below, place⟩
  | false, true => some ⟨below + 1, place⟩
  | false, false => none

def firstOnGrid (i : RoundingInterval) : (grids : Nat) → (place : Int) → Decimal
  | 0, place => ⟨i.value * i.scale place / i.step place, place⟩
  | grids + 1, place => (i.onGrid? place).getD (i.firstOnGrid grids (place - 1))

end RoundingInterval

/-- Moves the zeros at the end of the digits into the exponent. -/
def Decimal.withoutTrailingZeros (d : Decimal) : Decimal :=
  let zeros := ((Nat.toDigits 10 d.digits).reverse.takeWhile (· = '0')).length
  if d.digits = 0 then d else ⟨d.digits / Nat.pow 10 zeros, d.exponent + zeros⟩

/-- The shortest decimal that reads back as `mantissa * 2 ^ exponent`. Seventeen digits are enough
for doubles and nine for singles. -/
def Decimal.shortest (format : Float.Model.Format) (mantissa : Nat) (exponent : Int) : Decimal :=
  let interval := RoundingInterval.of format mantissa exponent
  let magnitude := decimalMagnitude (interval.value * interval.scale 0) (interval.step 0)
  (interval.firstOnGrid 17 magnitude).withoutTrailingZeros

end Relevance
