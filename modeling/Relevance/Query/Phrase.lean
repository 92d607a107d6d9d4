import Relevance.Fault
import Relevance.Scoring.Similarity

/-
How often a phrase stands in a field. `positions` has a list of ascending positions for every term
of the phrase, and `offsets` where each term stands in the phrase, counted from its first position.
An occurrence starts at a position of the first term and takes one position of each other term. Its
match length is how far the positions, less their offsets, lie apart: zero for the words of the
phrase in their places.
-/

set_option autoImplicit false

namespace Relevance.Phrase

/-- Halves the range of `size` places from `base` on, going to the upper half while the element in
the middle lies before what is looked for. -/
def bisectFrom (positions : List UInt32) (before : UInt32 → Bool) : (steps size base : Nat) → Nat
  | 0, _, base => base
  | steps + 1, size, base =>
    if size ≤ 1 then base
    else
      let middle := base + size / 2
      bisectFrom positions before steps (size - size / 2)
        (if before (positions.getD middle 0) then middle else base)

/-- The last place of an ascending list whose element lies before what is looked for, or the first
place if there is none. -/
def bisect (positions : List UInt32) (before : UInt32 → Bool) : Nat :=
  bisectFrom positions before positions.length positions.length 0

/-- Number of positions of an ascending list below a bound. -/
def countBelow (positions : List UInt32) (bound : Int) : Nat :=
  let place := bisect positions fun p => p.toNat < bound
  match positions[place]? with
  | some p => if p.toNat < bound then place + 1 else place
  | none => 0

def isMember (positions : List UInt32) (wanted : UInt32) : Bool :=
  positions[bisect positions (· ≤ wanted)]? = some wanted

/-- The position after `previous` that is nearest to `target`; of two equally near the smaller. -/
def nearestPosition (positions : List UInt32) (previous target : Int) : Option Int :=
  let index := countBelow positions (max target (previous + 1))
  let after : Option Int := positions[index]?.map fun p => p.toNat
  let before : Option Int :=
    if index = 0 then none
    else (positions[index - 1]?.map fun p => (p.toNat : Int)).filter (previous < ·)
  match before, after with
  | some before, some after => if target - before ≤ after - target then some before else some after
  | some before, none => some before
  | none, after => after

/-- Where a phrase starts whose first term stands at a position. The offset of the first term has
to be there. -/
def baseOf (start : UInt32) : List UInt32 → Except Fault Int
  | [] => .error (.indexOutOfBounds 0 0)
  | offset :: _ => .ok (start.toNat - offset.toNat)

/-- Whether every further term stands in its place. Positions are words of 32 bits, so a place
beyond the last one is counted from the first one again. -/
def allInPlace (base : Int) : (positions : List (List UInt32)) → (offsets : List UInt32) → Bool
  | positions :: rest, offset :: offsets =>
    let place := base + offset.toNat
    0 ≤ place && isMember positions (.ofNat place.toNat) && allInPlace base rest offsets
  | _, _ => true

/-- Adds to a frequency once for every start that counts. -/
def countStarts (starts : List UInt32) (contribution : UInt32 → Except Fault (Option Float32)) :
    Except Fault Float32 :=
  starts.foldlM (fun freq start => do
    match ← contribution start with
    | some part => return freq + part
    | none => return freq) 0.0

def exactFreq (positions : List (List UInt32)) (offsets : List UInt32) : Except Fault Float32 :=
  match positions with
  | [] => .ok 0.0
  | starts :: rest => countStarts starts fun start => do
    let base ← baseOf start offsets
    return if allInPlace base rest offsets.tail then some 1.0 else none

/-- The span of the starts that the terms of an occurrence stand for. -/
structure Spread where
  least : Int
  greatest : Int

def Spread.include (spread : Spread) (start : Int) : Spread :=
  ⟨min spread.least start, max spread.greatest start⟩

/-- Takes for each further term the position nearest to its place among those after the position of
the term before. None if a term has no such position. -/
def follow (base : Int) (previous : Int) (spread : Spread) :
    (positions : List (List UInt32)) → (offsets : List UInt32) → Option Spread
  | positions :: rest, offset :: offsets =>
    match nearestPosition positions previous (base + offset.toNat) with
    | some position => follow base position (spread.include (position - offset.toNat)) rest offsets
    | none => none
  | _, _ => some spread

def matchLength? (base : Int) (start : UInt32) (positions : List (List UInt32))
    (offsets : List UInt32) : Option Int :=
  (follow base start.toNat ⟨base, base⟩ positions offsets).map fun spread =>
    spread.greatest - spread.least

/-- The occurrences with a match length of at most `slop`, each counted the less the longer it
is. -/
def sloppyFreq (positions : List (List UInt32)) (offsets : List UInt32) (slop : UInt32) :
    Except Fault Float32 :=
  match positions with
  | [] => .ok 0.0
  | starts :: rest => countStarts starts fun start => do
    let base ← baseOf start offsets
    return match matchLength? base start rest offsets.tail with
      | some length =>
        if length ≤ slop.toNat then some (Similarity.sloppyFreq (.ofNat length.toNat)) else none
      | none => none

/-- The frequency of a phrase: none without every term, and otherwise by the slop allowed. -/
def freq (positions : List (List UInt32)) (offsets : List UInt32) (slop : UInt32) :
    Except Fault Float32 :=
  if positions.any List.isEmpty then .ok 0.0
  else if slop = 0 then exactFreq positions offsets
  else sloppyFreq positions offsets slop

end Relevance.Phrase
