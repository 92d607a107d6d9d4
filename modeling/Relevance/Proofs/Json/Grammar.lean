import Mathlib.Data.List.Forall2
import Relevance.Json.Lexeme

set_option autoImplicit false

namespace Relevance.Json

/-- White space between tokens, or none. -/
def Spacing (text : List Char) : Prop :=
  ∀ c ∈ text, isSpace c = true

instance (text : List Char) : Decidable (Spacing text) :=
  decidable_of_iff (text.all isSpace = true) List.all_eq_true

/-- The letters behind a backslash and the characters that they stand for. -/
def shortEscapes : List (Char × Char) := [
  ('"', '"'), ('\\', '\\'), ('/', '/'), ('b', '\x08'), ('f', '\x0c'), ('n', '\n'), ('r', '\r'),
  ('t', '\t')]

/-- Four hexadecimal digits of either case with a value. -/
structure IsUnit (digits : List Char) (value : Nat) : Prop where
  four : digits.length = 4
  all : digits.all isHexDigit = true
  value_eq : hexValue digits = value

/-- The number of the character that a pair of units stands for. -/
def pairedUnits (lead trail : Nat) : Nat :=
  0x10000 + (lead - 0xd800) * 0x400 + (trail - 0xdc00)

/-- A character other than a quote, a backslash and the control characters. -/
def isPlain (c : Char) : Bool :=
  c ≠ '"' && c ≠ '\\' && 0x20 ≤ c.toNat

/-- A character of a string is written as it stands, if it is plain, or by a letter behind a
backslash, or by its number. -/
inductive Writes (c : Char) : List Char → Prop
  | plain (asItStands : isPlain c = true) : Writes c [c]
  | short {letter : Char} (known : (letter, c) ∈ shortEscapes) : Writes c ['\\', letter]
  | unit {digits : List Char} (number : IsUnit digits c.toNat) : Writes c ('\\' :: 'u' :: digits)
  | pair {first second : List Char} {lead trail : Nat} (leads : 0xd800 ≤ lead ∧ lead < 0xdc00)
      (trails : 0xdc00 ≤ trail ∧ trail < 0xe000) (number : c.toNat = pairedUnits lead trail)
      (leadUnit : IsUnit first lead) (trailUnit : IsUnit second trail) :
      Writes c ('\\' :: 'u' :: (first ++ '\\' :: 'u' :: second))

/-- A string is written between quotes, character by character. -/
def WritesString (string : String) (text : List Char) : Prop :=
  ∃ pieces, List.Forall₂ Writes string.toList pieces ∧ text = '"' :: (pieces.flatten ++ ['"'])

/-- A string of plain characters may be written as it stands. -/
theorem writesString_plain {string : String} (plain : string.toList.all isPlain = true) :
    WritesString string ('"' :: (string.toList ++ ['"'])) := by
  refine ⟨string.toList.map fun c => [c], ?_, ?_⟩
  · rw [List.forall₂_map_right_iff, List.forall₂_same]
    exact fun c member => .plain (List.all_eq_true.mp plain c member)
  · rw [← List.flatMap_def, List.flatMap_singleton']

def IsRun (digits : List Char) : Prop :=
  digits ≠ [] ∧ ∀ c ∈ digits, c.isDigit = true

inductive WritesExponent : Option Int → List Char → Prop
  | absent : WritesExponent none []
  | present {mark : Char} {sign digits : List Char} (marked : mark = 'e' ∨ mark = 'E')
      (signed : sign ∈ [[], ['+'], ['-']]) (run : IsRun digits) :
      WritesExponent (some (if sign = ['-'] then -(digitsValue digits : Int) else digitsValue digits))
        (mark :: (sign ++ digits))

/-- A number consists of a sign, if it is negative, a whole part in which no zero leads other
digits, a point and further digits, if there are any, and an exponent, if there is one. -/
inductive WritesNumber (n : Number) : List Char → Prop
  | mk {exponent : List Char} (whole : IsRun n.whole)
      (leading : n.whole.head? = some '0' → n.whole.length = 1)
      (fraction : ∀ c ∈ n.fraction, c.isDigit = true) (exponential : WritesExponent n.exponent exponent) :
      WritesNumber n ((if n.negative then ['-'] else []) ++
        (n.whole ++ ((if n.fraction = [] then [] else '.' :: n.fraction) ++ exponent)))

/-- A text of a form, with any white space around it. -/
def Padded (form : List Char → Prop) (text : List Char) : Prop :=
  ∃ before inner after, Spacing before ∧ form inner ∧ Spacing after ∧
    text = before ++ (inner ++ after)

/-- Texts of the given forms one after another, with commas between them. -/
inductive Series : List (List Char → Prop) → List Char → Prop
  | single {form : List Char → Prop} {text : List Char} (padded : Padded form text) :
      Series [form] text
  | cons {form : List Char → Prop} {forms : List (List Char → Prop)} {text rest : List Char}
      (padded : Padded form text) (series : Series forms rest) :
      Series (form :: forms) (text ++ ',' :: rest)

inductive Bracketed (opening closing : Char) : List (List Char → Prop) → List Char → Prop
  | nil {inner : List Char} (spacing : Spacing inner) :
      Bracketed opening closing [] (opening :: (inner ++ [closing]))
  | series {forms : List (List Char → Prop)} {inner : List Char} (series : Series forms inner) :
      Bracketed opening closing forms (opening :: (inner ++ [closing]))

/-- A member of an object: a name, a colon, and a value of a form. -/
def Member (name : String) (form : List Char → Prop) (text : List Char) : Prop :=
  ∃ written before after value, WritesString name written ∧ Spacing before ∧ Spacing after ∧
    form value ∧ text = written ++ (before ++ ':' :: (after ++ value))

section

variable {form wider : List Char → Prop} {forms widers : List (List Char → Prop)}
  {opening closing : Char} {text : List Char}

theorem Series.ne_nil (series : Series forms text) : forms ≠ [] := by
  cases series <;> exact List.cons_ne_nil _ _

theorem Series.exists_first (series : Series (form :: forms) text) :
    ∃ first, Padded form first ∧ (forms = [] ∧ text = first ∨
      ∃ more, Series forms more ∧ text = first ++ ',' :: more) := by
  cases series with
  | single padded => exact ⟨text, padded, .inl ⟨rfl, rfl⟩⟩
  | cons padded series => exact ⟨_, padded, .inr ⟨_, series, rfl⟩⟩

theorem Bracketed.exists_inner (bracketed : Bracketed opening closing forms text) :
    ∃ inner, text = opening :: (inner ++ [closing]) ∧
      (forms = [] ∧ Spacing inner ∨ Series forms inner) := by
  cases bracketed with
  | nil spacing => exact ⟨_, rfl, .inl ⟨rfl, spacing⟩⟩
  | series series => exact ⟨_, rfl, .inr series⟩

theorem Padded.mono (wide : ∀ text, form text → wider text) (padded : Padded form text) :
    Padded wider text := by
  obtain ⟨before, inner, after, front, formed, back, rfl⟩ := padded
  exact ⟨before, inner, after, front, wide inner formed, back, rfl⟩

theorem Series.mono (wide : List.Forall₂ (fun form wider => ∀ text, form text → wider text) forms
    widers) (series : Series forms text) : Series widers text := by
  induction series generalizing widers with
  | single padded =>
    cases wide with
    | cons first others =>
      cases others
      exact .single (padded.mono first)
  | cons padded _ ih =>
    cases wide with
    | cons first others => exact .cons (padded.mono first) (ih others)

theorem Bracketed.mono (wide : List.Forall₂ (fun form wider => ∀ text, form text → wider text) forms
    widers) (bracketed : Bracketed opening closing forms text) :
    Bracketed opening closing widers text := by
  cases bracketed with
  | nil spacing =>
    cases wide
    exact .nil spacing
  | series series => exact .series (series.mono wide)

theorem Member.mono {name : String} (wide : ∀ text, form text → wider text)
    (member : Member name form text) : Member name wider text := by
  obtain ⟨written, before, after, value, named, front, back, formed, rfl⟩ := member
  exact ⟨written, before, after, value, named, front, back, wide value formed, rfl⟩

end

inductive IsScalar : List Char → Prop
  | word {text : List Char} (known : text ∈ ["null".toList, "true".toList, "false".toList]) :
      IsScalar text
  | string {string : String} {text : List Char} (writes : WritesString string text) : IsScalar text
  | number {n : Number} {text : List Char} (writes : WritesNumber n text) : IsScalar text

/-- A value with arrays and objects nested to at most some depth. -/
def IsValueWithin : Nat → List Char → Prop
  | 0, text => IsScalar text
  | depth + 1, text => IsScalar text ∨
      (∃ count, Bracketed '[' ']' (List.replicate count (IsValueWithin depth)) text) ∨
      ∃ names : List String,
        Bracketed '\x7b' '\x7d' (names.map fun name => Member name (IsValueWithin depth)) text

/-- Any JSON value. -/
def IsValue (text : List Char) : Prop :=
  ∃ depth, IsValueWithin depth text

end Relevance.Json
