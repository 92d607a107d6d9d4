import Relevance.Json.Value
import Relevance.Scoring.Similarity

set_option autoImplicit false

namespace Relevance

inductive Label where
  | boost
  | queryNorm
  | idf (docFreq docCount : Nat)
  | idfSum
  | termFreq (freq : Float32)
  | phraseFreq (freq : Float32)
  | tf (freq : Float32)
  | fieldNorm (doc : Nat)
  | queryWeight
  | fieldWeight (doc : Nat)
  | score (doc : Nat) (freq : Float32)
  | weight (clause : String) (doc : Nat) (similarity : Similarity)
  | sum
  | product
  | coord (matched clauses : Nat)
  | termMissing
  | matchesNothing
  | clauseMissing
  | clausesMissing
  | noClauseMatches
  /-- A value of another origin. -/
  | other (text : String)

def Label.text : Label → String
  | boost => "boost"
  | queryNorm => "queryNorm"
  | idf docFreq docCount =>
    "idf(docFreq=" ++ toString docFreq ++ ", docCount=" ++ toString docCount ++ ")"
  | idfSum => "idf(), sum of:"
  | termFreq freq => "termFreq=" ++ scoreText freq
  | phraseFreq freq => "phraseFreq=" ++ scoreText freq
  | tf freq => "tf(freq=" ++ scoreText freq ++ "), with freq of:"
  | fieldNorm doc => "fieldNorm(doc=" ++ toString doc ++ ")"
  | queryWeight => "queryWeight, product of:"
  | fieldWeight doc => "fieldWeight in " ++ toString doc ++ ", product of:"
  | score doc freq =>
    "score(doc=" ++ toString doc ++ ",freq=" ++ scoreText freq ++ "), product of:"
  | weight clause doc similarity =>
    "weight(" ++ clause ++ " in " ++ toString doc ++ ") [" ++ similarity.name ++ "], result of:"
  | sum => "sum of:"
  | product => "product of:"
  | coord matched clauses => "coord(" ++ toString matched ++ "/" ++ toString clauses ++ ")"
  | termMissing => "no matching term"
  | matchesNothing => "MatchNone doesn't match any documents"
  | clauseMissing => "no match on required clause"
  | clausesMissing => "Failure to meet condition(s) of required clause(s)"
  | noClauseMatches => "No matching clauses"
  | other text => text

inductive Explanation where
  | node (value : Float32) (label : Label) (isMatch : Bool) (details : List Explanation)

namespace Explanation

def value : Explanation → Float32
  | node value _ _ _ => value

def label : Explanation → Label
  | node _ label _ _ => label

def isMatch : Explanation → Bool
  | node _ _ isMatch _ => isMatch

def details : Explanation → List Explanation
  | node _ _ _ details => details

def matched (value : Float32) (label : Label) (details : List Explanation) : Explanation :=
  node value label true details

def leaf (value : Float32) (label : Label) : Explanation :=
  matched value label []

def noMatch (label : Label) (details : List Explanation) : Explanation :=
  node 0.0 label false details

def description (e : Explanation) : String :=
  e.label.text

def summary (e : Explanation) : String :=
  scoreText e.value ++ " = " ++ e.description

mutual

/-- The nodes in the order of the printed form, each with its depth below the root. -/
def outline (depth : Nat) : Explanation → List (Nat × Explanation)
  | node value label isMatch details =>
    (depth, node value label isMatch details) :: outlineAll (depth + 1) details

def outlineAll (depth : Nat) : List Explanation → List (Nat × Explanation)
  | [] => []
  | e :: rest => e.outline depth ++ outlineAll depth rest

end

def line (entry : Nat × Explanation) : String :=
  String.ofList (List.replicate (2 * entry.1) ' ') ++ entry.2.summary ++ "\n"

def text (e : Explanation) : String :=
  String.join ((e.outline 0).map line)

mutual

def toJson : Explanation → Json
  | node value label isMatch details => .object [
    ("description", .string label.text),
    ("details", .array (toJsonAll details)),
    ("match", .bool isMatch),
    ("value", .ofSingle value)]

def toJsonAll : List Explanation → List Json
  | [] => []
  | e :: rest => e.toJson :: toJsonAll rest

end

end Explanation

end Relevance
