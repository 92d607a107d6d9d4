/-
`ln` of a positive double, from exact integer arithmetic on `workingBits` fraction bits and one
rounding at the end. A positive double is `2 ^ k * r` with `1 ≤ r < 2`, so its logarithm is
`k * ln 2 + ln r`, and `ln r = 2 * artanh ((r - 1) / (r + 1))` has a series that gains three bits
with every term. Nothing in it is negative when the number is at least one.
-/

set_option autoImplicit false

namespace Relevance.Logarithm

def workingBits : Nat := 192

def one : Nat := 1 <<< workingBits

/-- The first `terms` terms of `power / odd + power * square / (odd + 2) + …`. -/
def series (square : Nat) : (terms odd power : Nat) → Nat
  | 0, _, _ => 0
  | terms + 1, odd, power => power / odd + series square terms (odd + 2) (power * square / one)

/-- Logarithm of the quotient of `num` by `den`, where `den ≤ num ≤ 2 * den`. -/
def ofRatio (num den : Nat) : Nat :=
  let argument := (num - den) * one / (num + den)
  2 * series (argument * argument / one) 64 1 argument

/-- Logarithm of `mantissa * 2 ^ exponent`, in units of `2 ^ -workingBits`. -/
def ofBinary (mantissa : Nat) (exponent : Int) : Int :=
  (exponent + mantissa.log2) * ofRatio 2 1 + ofRatio mantissa (1 <<< mantissa.log2)

end Relevance.Logarithm

namespace Relevance

/-- Natural logarithm; minus infinity at zero and not a number below it. -/
def ln (x : Float) : Float :=
  .ofModel <| .pack <| match x.toModel.unpack with
    | .finite .positive mantissa exponent _ =>
      .normalize .binary64 (Logarithm.ofBinary mantissa exponent) (-Logarithm.workingBits) .positive
    | .infinity .positive => .infinity .positive
    | .zero _ => .infinity .negative
    | _ => .notANumber

end Relevance
