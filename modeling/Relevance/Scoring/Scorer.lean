import Relevance.Index.Norm
import Relevance.Scoring.ClauseWeight

set_option autoImplicit false

namespace Relevance

/-- The score for a number of occurrences: `tf(freq) * weight`, times the norm of the document if
the field has norms. -/
def Similarity.score (similarity : Similarity) (freq weight : Float32) (norm : Option UInt8) :
    Float32 :=
  let raw := similarity.tf freq * weight
  match norm with
  | some norm => raw * Norm.decode norm
  | none => raw

structure ScoreComponents where
  tf : Float32
  idf : Float32
  /-- One for a field without norms. -/
  fieldNorm : Float32
  queryWeight : Float32
  score : Float32

/-- Scores the documents that a clause matches in one field. -/
structure Scorer where
  similarity : Similarity
  weight : ClauseWeight
  /-- None for a field whose length does not count. -/
  norms : Option NormTable

namespace Scorer

/-- The factors of a score, from which both the score and its explanation are read. -/
def components (scorer : Scorer) (doc : Nat) (freq : Float32) : ScoreComponents :=
  let norm := scorer.norms.map (·.norm doc)
  { tf := scorer.similarity.tf freq
    idf := scorer.weight.idf.value
    fieldNorm := match norm with
      | some norm => Norm.decode norm
      | none => 1.0
    queryWeight := scorer.weight.queryWeight
    score := scorer.similarity.score freq scorer.weight.value norm }

def score (scorer : Scorer) (doc : Nat) (freq : Float32) : Float32 :=
  (scorer.components doc freq).score

/-- The factors on the side of the query; a boost of one is left out. -/
def explainQuery (scorer : Scorer) : Explanation :=
  let weight := scorer.weight
  let boost := if weight.boost != 1.0 then [Explanation.leaf weight.boost .boost] else []
  .matched weight.queryWeight .queryWeight
    (boost ++ [weight.idf, .leaf weight.queryNorm .queryNorm])

def explainField (scorer : Scorer) (doc : Nat) (freq : Explanation) : Explanation :=
  let parts := scorer.components doc freq.value
  .matched (parts.tf * parts.idf * parts.fieldNorm) (.fieldWeight doc) [
    .matched parts.tf (.tf freq.value) [freq],
    scorer.weight.idf,
    .leaf parts.fieldNorm (.fieldNorm doc)]

/-- How a document was scored, given where the number of occurrences comes from. The side of the
query is left out when its weight is one. -/
def explain (scorer : Scorer) (doc : Nat) (freq : Explanation) : Explanation :=
  let query := scorer.explainQuery
  let field := scorer.explainField doc freq
  if query.value == 1.0 then field
  else .matched (scorer.score doc freq.value) (.score doc freq.value) [query, field]

end Scorer

end Relevance
