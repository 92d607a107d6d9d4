import Relevance.Json.Value
import Relevance.Numeric.Digits
import Relevance.Text.Utf8

/-
`lexemes` cuts a text into brackets, separators and scalars. Where the text is no JSON, the last
lexeme is a broken one that says whether a character does not fit or the text ends too early; what
comes before it can be read all the same.
-/

set_option autoImplicit false

namespace Relevance.Json

inductive TextFault where
  /-- The text ends too early. -/
  | ended
  /-- A character does not fit. -/
  | malformed
  deriving DecidableEq, Repr

/-- What is wrong if something is missing in front of the rest of a text. -/
def TextFault.before (rest : List Char) : TextFault :=
  if rest.isEmpty then ended else malformed

/-- What a value starts with: a scalar as a whole, or an opening bracket. -/
inductive Head where
  | null
  | bool (value : Bool)
  | integer (value : Int)
  | number (value : Float)
  | string (value : String)
  | array
  | object

inductive Lexeme where
  | head (head : Head)
  | closeArray
  | closeObject
  | comma
  | colon
  /-- A string that does not end, or holds what a string may not. -/
  | brokenString (fault : TextFault)
  /-- Anything else that is no JSON. -/
  | broken (fault : TextFault)

def isSpace (c : Char) : Bool :=
  c = ' ' || c = '\n' || c = '\t' || c = '\r'

def wordFault? : List Char → List Char → Option TextFault
  | [], _ => none
  | _ :: _, [] => some .ended
  | wanted :: word, c :: text => if c = wanted then wordFault? word text else some .malformed

/-- The character that a letter behind a backslash stands for. -/
def simpleEscape? (c : Char) : Option Char :=
  match c with
  | '"' => some '"'
  | '\\' => some '\\'
  | '/' => some '/'
  | 'b' => some '\x08'
  | 'f' => some '\x0c'
  | 'n' => some '\n'
  | 'r' => some '\r'
  | 't' => some '\t'
  | _ => none

def codeUnit (text : List Char) : Except TextFault Nat :=
  let digits := text.take 4
  if digits.length = 4 ∧ digits.all isHexDigit then .ok (hexValue digits)
  else if (Utf8.encode digits).length < 4 then .error .ended
  else .error .malformed

/-- Whether a code unit is the first half of a pair. -/
def isLeadUnit (code : Nat) : Bool :=
  0xd800 ≤ code && code < 0xdc00

/-- Whether a code unit is the second half of a pair. -/
def isTrailUnit (code : Nat) : Bool :=
  0xdc00 ≤ code && code < 0xe000

/-- The second half of a pair, written as a character number of its own. -/
def trailUnit : List Char → Except TextFault Nat
  | '\\' :: 'u' :: text => do
    let code ← codeUnit text
    if isTrailUnit code then .ok code else .error .malformed
  | ['\\'] => .error .ended
  | text => .error (.before text)

/-- The character that is written behind a backslash, and the number of characters it takes. Those
past the first `2 ^ 16` are written as pairs of numbers. -/
def escape : List Char → Except TextFault (Char × Nat)
  | [] => .error .ended
  | 'u' :: text => do
    let code ← codeUnit text
    if isTrailUnit code then .error .malformed
    else if isLeadUnit code then
      let trail ← trailUnit (text.drop 4)
      return (.ofNat (0x10000 + (code - 0xd800) * 0x400 + (trail - 0xdc00)), 11)
    else return (.ofNat code, 5)
  | c :: _ =>
    match simpleEscape? c with
    | some escaped => .ok (escaped, 1)
    | none => .error .malformed

/-- The text of a string behind the opening quote, and the number of characters it takes, closing
quote included. -/
def stringBody : List Char → Except TextFault (List Char × Nat)
  | [] => .error .ended
  | c :: rest =>
    if c = '"' then .ok ([], 1)
    else if c = '\\' then do
      let (escaped, taken) ← escape rest
      let (text, length) ← stringBody (rest.drop taken)
      return (escaped :: text, length + taken + 1)
    else if c.toNat < 0x20 then .error .malformed
    else do
      let (text, length) ← stringBody rest
      return (c :: text, length + 1)
  termination_by text => text.length
  decreasing_by all_goals simp only [List.length_cons, List.length_drop]; omega

/-- The digits at the start of a text, of which there has to be one. -/
def digitRun (text : List Char) : Except TextFault (List Char) :=
  let digits := text.takeWhile Char.isDigit
  if digits.isEmpty then .error (.before text) else .ok digits

structure Number where
  negative : Bool
  whole : List Char
  /-- The digits behind the point. -/
  fraction : List Char
  exponent : Option Int
  deriving DecidableEq, Repr

def exponentRun (text : List Char) : Except TextFault (Int × List Char) := do
  let (negative, text) := match text with
    | '-' :: rest => (true, rest)
    | '+' :: rest => (false, rest)
    | _ => (false, text)
  let digits ← digitRun text
  let value := digitsValue digits
  return (if negative then -value else value, text.drop digits.length)

/-- The number at the start of a text, and what follows it. No zero leads other digits. -/
def Number.scan (text : List Char) : Except TextFault (Number × List Char) := do
  let (negative, text) := match text with
    | '-' :: rest => (true, rest)
    | _ => (false, text)
  let whole ← digitRun text
  if whole.head? = some '0' ∧ 1 < whole.length then .error .malformed
  let (fraction, text) ← match text.drop whole.length with
    | '.' :: rest => do
      let digits ← digitRun rest
      pure (digits, rest.drop digits.length)
    | rest => pure ([], rest)
  match text with
  | mark :: rest =>
    if mark = 'e' ∨ mark = 'E' then
      let (exponent, rest) ← exponentRun rest
      return (⟨negative, whole, fraction, some exponent⟩, rest)
    else return (⟨negative, whole, fraction, none⟩, text)
  | [] => return (⟨negative, whole, fraction, none⟩, text)

/-- Puts digits behind a number as long as it stays below `2 ^ 64`. The other part of the answer is
the number of digits that are left over. -/
def appendDigits (number : Nat) : List Char → Nat × Nat
  | [] => (number, 0)
  | digit :: digits =>
    let longer := number * 10 + digitValue digit
    if longer < UInt64.size then appendDigits longer digits else (number, digits.length + 1)

def powerOfTen (exponent : Nat) : Float :=
  Float.ofScientific 1 false exponent

/-- The largest exponent of a power of ten that is a double. -/
def largestPower : Nat := 308

/-- A double divided by a power of ten, by the largest power first. -/
def divideByPower (x : Float) (exponent : Nat) : Float :=
  if exponent ≤ largestPower then x / powerOfTen exponent
  else if x == 0.0 then x
  else divideByPower (x / powerOfTen largestPower) (exponent - largestPower)
  termination_by exponent
  decreasing_by simp only [largestPower] at *; omega

/-- The double for `leading * 10 ^ exponent`, unless it is too large. It is rounded after every step
and need not be the nearest one. -/
def scaled? (leading : Nat) (exponent : Int) : Option Float :=
  if leading = 0 then some 0.0
  else if exponent < 0 then some (divideByPower (countToDouble leading) exponent.natAbs)
  else if largestPower < exponent.natAbs then none
  else
    let x := countToDouble leading * powerOfTen exponent.natAbs
    if x.isInf then none else some x

/-- Whether a number of the given size is an integer of 64 bits. Minus zero is not. -/
def isWord (negative : Bool) (magnitude : Nat) : Bool :=
  if negative then 0 < magnitude && 2 * magnitude ≤ UInt64.size
  else magnitude < UInt64.size

/-- What a written number is: an integer if it has no point and no exponent and fits into a word,
and otherwise a double, for which only as many digits count as fit into a word. -/
def Number.head? (n : Number) : Option Head :=
  let (whole, wholeLeft) := appendDigits 0 n.whole
  if n.fraction.isEmpty && n.exponent.isNone && wholeLeft = 0 && isWord n.negative whole then
    some (.integer (if n.negative then -whole else whole))
  else
    let (leading, fractionLeft) := appendDigits whole n.fraction
    let places : Int := wholeLeft - (n.fraction.length - fractionLeft : Nat)
    (scaled? leading (places + n.exponent.getD 0)).map fun x =>
      .number (if n.negative then -x else x)

namespace Lexeme

/-- The lexeme of a word whose first letter has been read, and the number of characters that
follow. A broken lexeme takes all of them. -/
def ofWord (word : String) (value : Head) (rest : List Char) : Lexeme × Nat :=
  match wordFault? word.toList rest with
  | none => (head value, word.length)
  | some fault => (broken fault, rest.length)

def ofString (rest : List Char) : Lexeme × Nat :=
  match stringBody rest with
  | .ok (text, length) => (head (.string (.ofList text)), length)
  | .error fault => (brokenString fault, rest.length)

/-- The lexeme of a number that starts with a character. -/
def ofNumber (c : Char) (rest : List Char) : Lexeme × Nat :=
  match Number.scan (c :: rest) with
  | .error fault => (broken fault, rest.length)
  | .ok (written, after) =>
    match written.head? with
    | some value => (head value, rest.length - after.length)
    | none => (broken .malformed, rest.length)

/-- The lexeme that starts with a character, and the number of characters behind that one that
belong to it. -/
def scan (c : Char) (rest : List Char) : Lexeme × Nat :=
  match c with
  | '[' => (head .array, 0)
  | ']' => (closeArray, 0)
  | '\x7b' => (head .object, 0)
  | '\x7d' => (closeObject, 0)
  | ',' => (comma, 0)
  | ':' => (colon, 0)
  | '"' => ofString rest
  | 'n' => ofWord "ull" .null rest
  | 't' => ofWord "rue" (.bool true) rest
  | 'f' => ofWord "alse" (.bool false) rest
  | _ => if c = '-' || c.isDigit then ofNumber c rest else (broken .malformed, rest.length)

end Lexeme

def lexemes : List Char → List Lexeme
  | [] => []
  | c :: rest =>
    if isSpace c then lexemes rest
    else
      let (lexeme, length) := Lexeme.scan c rest
      lexeme :: lexemes (rest.drop length)
  termination_by text => text.length
  decreasing_by all_goals simp only [List.length_cons, List.length_drop]; omega

end Relevance.Json
