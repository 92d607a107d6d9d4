import Relevance.Analysis.Analyzer
import Relevance.Numeric.Numeral
import Relevance.Query.Basic
import Relevance.Text.Blank

set_option autoImplicit false

namespace Relevance

inductive QueryPart where
  | word (text : List Char)
  | phrase (text : List Char)
  deriving DecidableEq, Repr

namespace QueryPart

def text : QueryPart → List Char
  | .word text | .phrase text => text

def isWordChar (c : Char) : Bool :=
  c ≠ '"' && !isBlank c

theorem length_dropWhile_le (p : Char → Bool) (text : List Char) :
    (text.dropWhile p).length ≤ text.length :=
  (List.dropWhile_sublist p).length_le

/-- The parts of a written query. A quote starts a phrase if there is another one after it, and is
passed over if there is none. -/
def scan : List Char → List QueryPart
  | [] => []
  | c :: rest =>
    if c = '"' then
      if rest.contains '"' then
        .phrase (rest.takeWhile (· ≠ '"')) :: scan ((rest.dropWhile (· ≠ '"')).drop 1)
      else scan rest
    else if isBlank c then scan rest
    else .word (c :: rest.takeWhile isWordChar) :: scan (rest.dropWhile isWordChar)
  termination_by text => text.length
  decreasing_by
    all_goals simp only [List.length_cons, List.length_drop]
    · have := length_dropWhile_le (· ≠ '"') rest
      omega
    · omega
    · omega
    · have := length_dropWhile_le isWordChar rest
      omega

end QueryPart

/-- A field to search and the boost of what is found in it. -/
structure SearchField where
  name : String
  boost : Float32

namespace SearchField

def boost? (text : List Char) : Option Float32 :=
  (readSingle? text).filter fun boost => boost.isFinite && 0.0 < boost

/-- The name in front of the first caret and the boost behind it. Without a caret, or with a text
behind it that is no boost, the boost is one. -/
def read (text : String) : SearchField :=
  let name := text.toList.takeWhile (· ≠ '^')
  ⟨.ofList name, (boost? (text.toList.drop (name.length + 1))).getD 1.0⟩

end SearchField

namespace Query

/-- A query for the same thing in any of several fields. -/
def inFields (fields : List SearchField) (query : String → Query) : Query :=
  .any (fields.map fun field => (query field.name).boost field.boost)

/-- The queries for a part of a written query with these tokens: one for each token of a word, and
one for all tokens of a phrase if it has any. -/
def ofPart (fields : List SearchField) (tokens : List Token) : QueryPart → List Query
  | .word _ => tokens.map fun token => inFields fields fun field => .ofTerm field token.term
  | .phrase _ =>
    match tokens with
    | [] => []
    | tokens => [inFields fields fun field => .ofTokens field tokens 0]

def ofText (text : String) (fields : List String) (analyzer : Analyzer) : Except Fault Query := do
  let fields := fields.map SearchField.read
  let queries ← (QueryPart.scan text.toList).mapM fun part => do
    return ofPart fields (← analyzer.analyze part.text) part
  return .any queries.flatten

end Query

end Relevance
