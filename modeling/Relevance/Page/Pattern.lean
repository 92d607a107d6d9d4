import Relevance.Text.Blank

/-
A pattern is matched at the start of a text and answers with the number of characters that it
takes. Letters of a pattern stand for both cases.
-/

set_option autoImplicit false

namespace Relevance

/-- The length of a match at the start of a text. -/
abbrev Pattern := List Char → Option Nat

namespace Pattern

/-- The small letter that a character is another form of. Besides the capital letters these are the
long s and the Kelvin sign. -/
def foldCase (c : Char) : Char :=
  if c = 'ſ' then 's' else if c = '\u212a' then 'k' else c.toLower

def literal : List Char → Pattern
  | [], _ => some 0
  | _ :: _, [] => none
  | wanted :: rest, c :: text =>
    if foldCase c = wanted then (literal rest text).map (· + 1) else none

def through (mark : Char) : Pattern
  | [] => none
  | c :: text => if c = mark then some 1 else (through mark text).map (· + 1)

def blanks : Pattern := fun text =>
  some (text.takeWhile isBlank).length

def followedBy (first second : Pattern) : Pattern := fun text => do
  let length ← first text
  return length + (← second (text.drop length))

def orElse (first second : Pattern) : Pattern := fun text =>
  (first text).or (second text)

/-- The first place where a pattern matches: how many characters stand before it, and how many it
takes. -/
def search (pattern : Pattern) : List Char → Option (Nat × Nat)
  | [] => (pattern []).map (0, ·)
  | c :: text =>
    match pattern (c :: text) with
    | some length => some (0, length)
    | none => (search pattern text).map fun found => (found.1 + 1, found.2)

/-- An opening pattern, what stands up to the first match of a closing one, and that match. -/
def enclosed (opening closing : Pattern) : Pattern := fun text => do
  let start ← opening text
  let (length, finish) ← closing.search (text.drop start)
  return start + length + finish

/-- What stands between an opening pattern and the first match of a closing one. -/
def contents? (opening closing : Pattern) (text : List Char) : Option (List Char) := do
  let start ← opening text
  let inner := text.drop start
  let (length, _) ← closing.search inner
  return inner.take length

/-- The answer for the first suffix of a text that has one. -/
def firstSome {α : Type} (f : List Char → Option α) : List Char → Option α
  | [] => f []
  | c :: text => (f (c :: text)).or (firstSome f text)

/-- Puts replacements in place of matches from left to right, once `skip` characters are past. -/
def replaceFrom (find : List Char → Option (List Char × Nat)) : Nat → List Char → List Char
  | _, [] => []
  | skip + 1, _ :: text => replaceFrom find skip text
  | 0, c :: text =>
    match find (c :: text) with
    | some (replacement, length + 1) => replacement ++ replaceFrom find length text
    | _ => c :: replaceFrom find 0 text

/-- The text with a blank in place of every match. -/
def blankOut (pattern : Pattern) (text : List Char) : List Char :=
  replaceFrom (fun text => (pattern text).map ([' '], ·)) 0 text

end Pattern

end Relevance
