set_option autoImplicit false

namespace Relevance

inductive Fault where
  | additionOverflow
  | subtractionOverflow
  | indexOutOfBounds (length index : Nat)
  | capacityOverflow
  deriving DecidableEq, Repr

def Fault.message : Fault → String
  | additionOverflow => "attempt to add with overflow"
  | subtractionOverflow => "attempt to subtract with overflow"
  | indexOutOfBounds length index =>
    "index out of bounds: the len is " ++ toString length ++ " but the index is " ++ toString index
  | capacityOverflow => "capacity overflow"

/-- Sum of two counters. -/
def checkedAdd (a b : Nat) : Except Fault Nat :=
  if a + b < UInt64.size then .ok (a + b) else .error .additionOverflow

/-- Difference of two counters. -/
def checkedSub (a b : Nat) : Except Fault Nat :=
  if b ≤ a then .ok (a - b) else .error .subtractionOverflow

theorem checkedAdd_of_lt {a b : Nat} (h : a + b < UInt64.size) : checkedAdd a b = .ok (a + b) :=
  if_pos h

end Relevance
