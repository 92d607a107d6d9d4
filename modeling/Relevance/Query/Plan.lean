import Relevance.Index.Store
import Relevance.Query.Basic
import Relevance.Query.Phrase
import Relevance.Scoring.Scorer
import Std.Data.ExtTreeSet

set_option autoImplicit false

namespace Relevance

inductive Matcher where
  | term (wanted : Term)
  /-- The terms of a phrase and how far each stands behind the first position of the phrase. -/
  | phrase (terms : List Term) (offsets : List UInt32) (slop : UInt32)
  deriving DecidableEq

def Matcher.terms : Matcher → List Term
  | term wanted => [wanted]
  | phrase terms .. => terms

structure Clause where
  field : FieldId
  matcher : Matcher
  boost : Float32
  weight : ClauseWeight
  description : String

namespace Clause

/-- Binds a term or phrase to a field of an index. -/
def ofMatcher (index : Index) (similarity : Similarity) (field : FieldId) (matcher : Matcher)
    (boost : Float32) (description : String) : Except Fault Clause := do
  let terms := matcher.terms.map (index.termStatistics field)
  let weight ← similarity.clauseWeight (index.fieldStatistics field) terms
  return ⟨field, matcher, boost, weight.normalize 1.0 boost, description⟩

def candidates (index : Index) (clause : Clause) : Std.ExtTreeSet DocId :=
  let docs (term : Term) :=
    Std.ExtTreeSet.ofList ((index.docsWithTerm? clause.field term).getD [])
  match clause.matcher.terms with
  | [] => ∅
  | term :: terms => terms.foldl (fun common term => common ∩ docs term) (docs term)

def freq (index : Index) (clause : Clause) (doc : DocId) : Except Fault Float32 :=
  match clause.matcher with
  | .term term => .ok (countToSingle (index.positions doc clause.field term).length)
  | .phrase terms offsets slop =>
    Phrase.freq (terms.map (index.positions doc clause.field)) offsets slop

def scorer (index : Index) (similarity : Similarity) (clause : Clause) : Scorer :=
  ⟨similarity, clause.weight, index.norms? clause.field⟩

/-- The score of a document; none for one without the clause. -/
def score (index : Index) (similarity : Similarity) (clause : Clause) (doc : DocId) :
    Except Fault (Option Float32) := do
  let freq ← clause.freq index doc
  return if freq ≤ 0.0 then none else some ((clause.scorer index similarity).score doc freq)

def explain (index : Index) (similarity : Similarity) (clause : Clause) (doc : DocId) :
    Except Fault Explanation := do
  let freq ← clause.freq index doc
  if freq ≤ 0.0 then return .noMatch .termMissing []
  let label := match clause.matcher with
    | .term _ => Label.termFreq freq
    | .phrase .. => Label.phraseFreq freq
  let score := (clause.scorer index similarity).explain doc (.leaf freq label)
  return .matched score.value (.weight clause.description doc similarity) [score]

end Clause

inductive Plan where
  | matchNone
  | leaf (clause : Clause)
  | conjunction (plans : List Plan)
  | disjunction (plans : List Plan)

def firstPosition? (tokens : List Token) : Option UInt32 :=
  (tokens.map Token.position).min?

def offsetFrom (first : UInt32) (token : Token) : Except Fault UInt32 :=
  if first ≤ token.position then .ok (token.position - first) else .error .subtractionOverflow

/-- What a phrase looks for; nothing for a phrase without tokens. -/
def Matcher.ofTokens? (tokens : List Token) (slop : UInt32) : Except Fault (Option Matcher) :=
  match firstPosition? tokens with
  | none => .ok none
  | some first => do
    return some (.phrase (tokens.map Token.term) (← tokens.mapM (offsetFrom first)) slop)

namespace Plan

mutual

/-- Binds a query to an index. A field that the index does not have, like a phrase without tokens,
matches nothing. -/
def ofQuery (index : Index) (similarity : Similarity) : Query → Except Fault Plan
  | .matchNone => .ok .matchNone
  | .term field wanted boost =>
    match index.schema.find? field with
    | none => .ok .matchNone
    | some id => do
      return .leaf (← Clause.ofMatcher index similarity id (.term wanted) boost
        (Query.text (.term field wanted boost)))
  | .phrase field tokens slop boost =>
    match index.schema.find? field with
    | none => .ok .matchNone
    | some id => do
      match ← Matcher.ofTokens? tokens slop with
      | none => return .matchNone
      | some matcher =>
        return .leaf (← Clause.ofMatcher index similarity id matcher boost
          (Query.text (.phrase field tokens slop boost)))
  | .conjunction queries => return .conjunction (← ofQueries index similarity queries)
  | .disjunction queries => return .disjunction (← ofQueries index similarity queries)

def ofQueries (index : Index) (similarity : Similarity) : List Query → Except Fault (List Plan)
  | [] => .ok []
  | query :: rest => return (← ofQuery index similarity query) :: (← ofQueries index similarity rest)

end

mutual

/-- The sum of the squared weights of all clauses, each nested query summed on its own. -/
def valueForNormalization : Plan → Float32
  | .matchNone => 0.0
  | .leaf clause => clause.weight.valueForNormalization
  | .conjunction plans => sumForNormalization 0.0 plans
  | .disjunction plans => sumForNormalization 0.0 plans

def sumForNormalization (sum : Float32) : List Plan → Float32
  | [] => sum
  | plan :: rest => sumForNormalization (sum + plan.valueForNormalization) rest

end

mutual

/-- Applies a query norm to every clause in place of earlier ones. -/
def normalize (queryNorm : Float32) : Plan → Plan
  | .matchNone => .matchNone
  | .leaf clause =>
    .leaf { clause with weight := clause.weight.normalize queryNorm clause.boost }
  | .conjunction plans => .conjunction (normalizeAll queryNorm plans)
  | .disjunction plans => .disjunction (normalizeAll queryNorm plans)

def normalizeAll (queryNorm : Float32) : List Plan → List Plan
  | [] => []
  | plan :: rest => plan.normalize queryNorm :: normalizeAll queryNorm rest

end

mutual

def clauses : Plan → List Clause
  | .matchNone => []
  | .leaf clause => [clause]
  | .conjunction plans => clausesAll plans
  | .disjunction plans => clausesAll plans

def clausesAll : List Plan → List Clause
  | [] => []
  | plan :: rest => plan.clauses ++ clausesAll rest

end

mutual

/-- The documents that may match: those with all terms of a phrase, in all parts of a conjunction,
or in any part of a disjunction. A conjunction of nothing has none. -/
def candidates (index : Index) : Plan → Std.ExtTreeSet DocId
  | .matchNone => ∅
  | .leaf clause => clause.candidates index
  | .conjunction [] => ∅
  | .conjunction (plan :: plans) => commonCandidates index (plan.candidates index) plans
  | .disjunction plans => allCandidates index plans

def commonCandidates (index : Index) (docs : Std.ExtTreeSet DocId) :
    List Plan → Std.ExtTreeSet DocId
  | [] => docs
  | plan :: rest => commonCandidates index (docs ∩ plan.candidates index) rest

def allCandidates (index : Index) : List Plan → Std.ExtTreeSet DocId
  | [] => ∅
  | plan :: rest => plan.candidates index ∪ allCandidates index rest

end

/-- The score of a disjunction for the sum of the scores of the parts that match: the sum times the
share of those parts. -/
def coordinated (sum : Float32) (matched parts : Nat) : Float32 :=
  let coord := Similarity.coord matched parts
  if coord == 1.0 then sum else sum * coord

mutual

/-- The score of a document; none for one that does not match. -/
def score (index : Index) (similarity : Similarity) (doc : DocId) :
    Plan → Except Fault (Option Float32)
  | .matchNone => .ok none
  | .leaf clause => clause.score index similarity doc
  | .conjunction plans => scoreAll index similarity doc 0.0 plans
  | .disjunction plans => do
    let (sum, matched) ← scoreAny index similarity doc 0.0 0 plans
    return if matched = 0 then none else some (coordinated sum matched plans.length)

/-- Adds up the scores of all parts; none from the first part on that does not match. -/
def scoreAll (index : Index) (similarity : Similarity) (doc : DocId) (sum : Float32) :
    List Plan → Except Fault (Option Float32)
  | [] => .ok (some sum)
  | plan :: rest => do
    match ← plan.score index similarity doc with
    | none => return none
    | some part => scoreAll index similarity doc (sum + part) rest

/-- Adds up the scores of the parts that match and counts them. -/
def scoreAny (index : Index) (similarity : Similarity) (doc : DocId) (sum : Float32)
    (matched : Nat) : List Plan → Except Fault (Float32 × Nat)
  | [] => .ok (sum, matched)
  | plan :: rest => do
    match ← plan.score index similarity doc with
    | none => scoreAny index similarity doc sum matched rest
    | some part => scoreAny index similarity doc (sum + part) (matched + 1) rest

end

/-- The sum of the values of explanations, from the left. -/
def sumValues (details : List Explanation) : Float32 :=
  details.foldl (fun sum detail => sum + detail.value) 0.0

def explainAll (parts : List Explanation) : Explanation :=
  if parts.all Explanation.isMatch then .matched (sumValues parts) .sum parts
  else .noMatch .clausesMissing
    (parts.map fun part => if part.isMatch then part else .noMatch .clauseMissing [part])

def explainAny (parts : List Explanation) : Explanation :=
  let details := parts.filter Explanation.isMatch
  if details.isEmpty then .noMatch .noClauseMatches []
  else
    let coord := Similarity.coord details.length parts.length
    let sum := sumValues details
    let explained := Explanation.matched sum .sum details
    if coord == 1.0 then explained
    else .matched (sum * coord) .product
      [explained, .leaf coord (.coord details.length parts.length)]

mutual

def explain (index : Index) (similarity : Similarity) (doc : DocId) :
    Plan → Except Fault Explanation
  | .matchNone => .ok (.noMatch .matchesNothing [])
  | .leaf clause => clause.explain index similarity doc
  | .conjunction plans => explainAll <$> explainParts index similarity doc plans
  | .disjunction plans => explainAny <$> explainParts index similarity doc plans

def explainParts (index : Index) (similarity : Similarity) (doc : DocId) :
    List Plan → Except Fault (List Explanation)
  | [] => .ok []
  | plan :: rest => do
    let part ← plan.explain index similarity doc
    return part :: (← explainParts index similarity doc rest)

end

end Plan

end Relevance
