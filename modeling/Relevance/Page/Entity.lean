import Relevance.Numeric.Digits
import Relevance.Page.Pattern

set_option autoImplicit false

namespace Relevance.Entity

def names : List (String × Char) := [
  ("amp", '&'), ("lt", '<'), ("gt", '>'), ("quot", '"'), ("apos", '\''), ("nbsp", '\u00a0'),
  ("copy", '\u00a9'), ("reg", '\u00ae'), ("ndash", '\u2013'), ("mdash", '\u2014'),
  ("lsquo", '\u2018'), ("rsquo", '\u2019'), ("ldquo", '\u201c'), ("rdquo", '\u201d'),
  ("hellip", '\u2026')]

def ofNumber? (code : Nat) : Option Char :=
  if h : code.isValidChar then some (Char.ofNatAux code h) else none

inductive Reference where
  | name (text : List Char)
  | decimal (digits : List Char)
  | hexadecimal (digits : List Char)

namespace Reference

def char? : Reference → Option Char
  | name text => names.lookup (.ofList text)
  | decimal digits => ofNumber? (digitsValue digits)
  | hexadecimal digits => ofNumber? (hexValue digits)

def length : Reference → Nat
  | name text => text.length
  | decimal digits => digits.length + 1
  | hexadecimal digits => digits.length + 2

/-- A number of at least one and at most `most` digits, with a semicolon behind. -/
def digits? (isDigit : Char → Bool) (most : Nat) (text : List Char) : Option (List Char) :=
  let digits := text.takeWhile isDigit
  if digits.isEmpty || most < digits.length || (text.drop digits.length).head? ≠ some ';' then none
  else some digits

def scan? : List Char → Option Reference
  | '#' :: 'x' :: text => hexadecimal <$> digits? isHexDigit 6 text
  | '#' :: 'X' :: text => hexadecimal <$> digits? isHexDigit 6 text
  | '#' :: text => decimal <$> digits? Char.isDigit 7 text
  | text =>
    let letters := text.takeWhile Char.isAlpha
    if letters.isEmpty || (text.drop letters.length).head? ≠ some ';' then none
    else some (name letters)

end Reference

/-- A reference at the start of a text: what it is replaced by, and its length. -/
def atStart? : List Char → Option (List Char × Nat)
  | '&' :: text =>
    match Reference.scan? text with
    | some reference =>
      let length := reference.length + 2
      some (match reference.char? with
        | some c => ([c], length)
        | none => (('&' :: text).take length, length))
    | none => none
  | _ => none

def decode (text : List Char) : List Char :=
  Pattern.replaceFrom atStart? 0 text

end Relevance.Entity
