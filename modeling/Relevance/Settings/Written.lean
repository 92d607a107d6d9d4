import Relevance.Json.Lexeme
import Relevance.Settings.Basic
import Relevance.Text.Quoted

/-
Settings are written as a JSON object with some of seven keys, or as an array of their values in a
fixed order; what is left out is as in `Settings.standard`. `Settings.ofText` reads the lexemes of
a text one by one. A `Reading` says what has been read and what may come next, and the first lexeme
that may not come next is the error.
-/

set_option autoImplicit false

namespace Relevance

inductive Flag where
  | titleNorms
  | contentNorms
  | stopWords
  | explain
  deriving DecidableEq, Repr

namespace Settings

def setFlag (settings : Settings) (flag : Flag) (value : Bool) : Settings :=
  match flag with
  | .titleNorms => { settings with titleNorms := value }
  | .contentNorms => { settings with contentNorms := value }
  | .stopWords => { settings with stopWords := value }
  | .explain => { settings with explain := value }

inductive Key where
  | similarity
  | fields
  | top
  | flag (flag : Flag)
  deriving DecidableEq, Repr

namespace Key

def name : Key → String
  | similarity => "similarity"
  | fields => "fields"
  | top => "top"
  | flag .titleNorms => "title_norms"
  | flag .contentNorms => "content_norms"
  | flag .stopWords => "stop_words"
  | flag .explain => "explain"

/-- All keys, in the order of the values in an array. -/
def all : List Key := [
  similarity, fields, top, flag .titleNorms, flag .contentNorms, flag .stopWords, flag .explain]

def ofName? (name : String) : Option Key :=
  all.find? (·.name = name)

theorem ofName?_name (key : Key) : ofName? key.name = some key := by
  obtain _ | _ | _ | flag := key
  · decide
  · decide
  · decide
  · cases flag <;> decide

end Key

inductive Expected where
  | settings
  | variant
  | unit
  | list
  | string
  | count
  | flag
  deriving DecidableEq, Repr

def Expected.text : Expected → String
  | settings => "struct Settings"
  | variant => "variant identifier"
  | unit => "unit"
  | list => "a sequence"
  | string => "a string"
  | count => "usize"
  | flag => "a boolean"

inductive WrittenError where
  | noJson (fault : Json.TextFault)
  | unknownKey (name : String)
  | repeatedKey (key : Key)
  | unknownSimilarity (name : String)
  | negativeCount (value : Int)
  | mismatch (found : Json.Head) (expected : Expected)

def headText : Json.Head → String
  | .null => "null"
  | .bool value => "boolean \x60" ++ (if value then "true" else "false") ++ "\x60"
  | .integer value => "integer \x60" ++ toString value ++ "\x60"
  | .number value => "floating point \x60" ++ jsonNumberText value ++ "\x60"
  | .string value => "string " ++ quoted value
  | .array => "sequence"
  | .object => "map"

/-- The message of an error, unless the text is no JSON at all. -/
def WrittenError.message? : WrittenError → Option String
  | noJson _ => none
  | unknownKey name => some ("unknown field \x60" ++ name ++ "\x60, expected one of " ++
      ", ".intercalate (Key.all.map fun key => "\x60" ++ key.name ++ "\x60"))
  | repeatedKey key => some ("duplicate field \x60" ++ key.name ++ "\x60")
  | unknownSimilarity name => some ("unknown variant \x60" ++ name ++ "\x60, expected " ++
      " or ".intercalate ([Similarity.smoothed, .classic].map fun s => "\x60" ++ s.keyword ++ "\x60"))
  | negativeCount value =>
    some ("invalid value: integer \x60" ++ toString value ++ "\x60, expected " ++
      Expected.count.text)
  | mismatch found expected =>
    some ("invalid type: " ++ headText found ++ ", expected " ++ expected.text)

/-- The error of a lexeme that stands where something else has to. -/
def unexpected (expected : Expected) : Json.Lexeme → WrittenError
  | .head found => .mismatch found expected
  | .brokenString fault | .broken fault => .noJson fault
  | _ => .noJson .malformed

/-- An object with keys, or an array of values. -/
inductive Form where
  | object
  | array
  deriving DecidableEq, Repr

def Form.closes : Form → Json.Lexeme → Bool
  | object, .closeObject => true
  | array, .closeArray => true
  | _, _ => false

/-- The settings so far and the keys that they have been given for. -/
structure Draft where
  form : Form
  settings : Settings
  given : List Key
  deriving DecidableEq, Repr

/-- What has been read and where in the text that leaves off. -/
inductive Reading where
  | start
  /-- Behind the opening bracket. -/
  | opened (draft : Draft)
  /-- Behind a key. -/
  | keyed (draft : Draft) (key : Key)
  /-- Where a value has to be. -/
  | awaiting (draft : Draft) (key : Key)
  /-- Behind the opening bracket of the list of fields. -/
  | listOpened (draft : Draft)
  /-- Behind a field of the list. -/
  | listed (draft : Draft) (fields : List String)
  /-- Behind a comma of the list. -/
  | listContinued (draft : Draft) (fields : List String)
  /-- Behind the opening bracket of an object that names a similarity. -/
  | variantOpened (draft : Draft)
  /-- Behind the name there. -/
  | variantNamed (draft : Draft) (similarity : Similarity)
  /-- Behind the colon there. -/
  | variantColon (draft : Draft) (similarity : Similarity)
  /-- Behind the value there. -/
  | variantGiven (draft : Draft) (similarity : Similarity)
  /-- Behind a value. -/
  | valued (draft : Draft)
  /-- Behind a comma. -/
  | continued (draft : Draft)
  /-- Behind the closing bracket. -/
  | finished (settings : Settings)
  deriving DecidableEq, Repr

namespace Draft

def empty (form : Form) : Draft :=
  ⟨form, .standard, []⟩

def enter (draft : Draft) (settings : Settings) : Reading :=
  .valued { draft with settings }

def give (draft : Draft) (key : Key) : Draft :=
  { draft with given := draft.given ++ [key] }

def similarity (name : String) : Except WrittenError Similarity :=
  match Similarity.ofKeyword? name with
  | some similarity => .ok similarity
  | none => .error (.unknownSimilarity name)

/-- Reads the start of the value of a key. A similarity is a name, or an object with the name as its
only key. -/
def value (draft : Draft) (key : Key) (lexeme : Json.Lexeme) : Except WrittenError Reading :=
  match key, lexeme with
  | .similarity, .head (.string name) => do
    return draft.enter { draft.settings with similarity := ← similarity name }
  | .similarity, .head .object => .ok (.variantOpened draft)
  | .similarity, .brokenString fault => .error (.noJson fault)
  | .similarity, _ => .error (.noJson .malformed)
  | .fields, .head .array => .ok (.listOpened draft)
  | .fields, lexeme => .error (unexpected .list lexeme)
  | .top, .head (.integer value) =>
    if 0 ≤ value then .ok (draft.enter { draft.settings with top := value.toNat })
    else .error (.negativeCount value)
  | .top, lexeme => .error (unexpected .count lexeme)
  | .flag flag, .head (.bool value) => .ok (draft.enter (draft.settings.setFlag flag value))
  | .flag _, lexeme => .error (unexpected .flag lexeme)

def key (draft : Draft) : Json.Lexeme → Except WrittenError Reading
  | .head (.string name) =>
    match Key.ofName? name with
    | none => .error (.unknownKey name)
    | some key =>
      if key ∈ draft.given then .error (.repeatedKey key) else .ok (.keyed (draft.give key) key)
  | .brokenString fault => .error (.noJson fault)
  | _ => .error (.noJson .malformed)

def nextKey? (draft : Draft) : Option Key :=
  Key.all[draft.given.length]?

/-- Reads a key with its value, or a value alone. -/
def entry (draft : Draft) (lexeme : Json.Lexeme) : Except WrittenError Reading :=
  match draft.form with
  | .object => draft.key lexeme
  | .array =>
    match draft.nextKey? with
    | some key => (draft.give key).value key lexeme
    | none => .error (.noJson .malformed)

def mayContinue (draft : Draft) : Bool :=
  match draft.form with
  | .object => true
  | .array => draft.nextKey?.isSome

def field (draft : Draft) (fields : List String) : Json.Lexeme → Except WrittenError Reading
  | .head (.string name) => .ok (.listed draft (fields ++ [name]))
  | lexeme => .error (unexpected .string lexeme)

end Draft

namespace Reading

def step : Reading → Json.Lexeme → Except WrittenError Reading
  | start, .head .object => .ok (opened (.empty .object))
  | start, .head .array => .ok (opened (.empty .array))
  | start, lexeme => .error (unexpected .settings lexeme)
  | opened draft, lexeme =>
    if draft.form.closes lexeme then .ok (finished draft.settings) else draft.entry lexeme
  | keyed draft key, .colon => .ok (awaiting draft key)
  | awaiting draft key, lexeme => draft.value key lexeme
  | listOpened draft, .closeArray => .ok (draft.enter { draft.settings with fields := [] })
  | listOpened draft, lexeme => draft.field [] lexeme
  | listed draft fields, .closeArray => .ok (draft.enter { draft.settings with fields })
  | listed draft fields, .comma => .ok (listContinued draft fields)
  | listContinued draft fields, lexeme => draft.field fields lexeme
  | variantOpened draft, .head (.string name) => do
    return variantNamed draft (← Draft.similarity name)
  | variantOpened _, lexeme => .error (unexpected .variant lexeme)
  | variantNamed draft similarity, .colon => .ok (variantColon draft similarity)
  | variantColon draft similarity, .head .null => .ok (variantGiven draft similarity)
  | variantColon _ _, lexeme => .error (unexpected .unit lexeme)
  | variantGiven draft similarity, .closeObject =>
    .ok (draft.enter { draft.settings with similarity })
  | valued draft, .comma =>
    if draft.mayContinue then .ok (continued draft) else .error (.noJson .malformed)
  | valued draft, lexeme =>
    if draft.form.closes lexeme then .ok (finished draft.settings)
    else .error (.noJson .malformed)
  | continued draft, lexeme => draft.entry lexeme
  | _, _ => .error (.noJson .malformed)

/-- What has been read at the end of the text. -/
def finish : Reading → Except WrittenError Settings
  | finished settings => .ok settings
  | _ => .error (.noJson .ended)

end Reading

def ofText (text : String) : Except WrittenError Settings := do
  (← (Json.lexemes text.toList).foldlM Reading.step .start).finish

end Settings

end Relevance
