import Relevance.Index.Statistics
import Relevance.Scoring.Explanation

set_option autoImplicit false

namespace Relevance

/-- The weight of a term or phrase in one field. -/
structure ClauseWeight where
  field : String
  idf : Explanation
  queryNorm : Float32
  boost : Float32
  /-- `queryNorm * boost * idf`. -/
  queryWeight : Float32
  /-- `queryWeight * idf`, which every document's `tf` is multiplied by. -/
  value : Float32

namespace ClauseWeight

/-- The weight of a rarity under a query norm and a boost. -/
def normalized (field : String) (idf : Explanation) (queryNorm boost : Float32) : ClauseWeight :=
  let queryWeight := queryNorm * boost * idf.value
  { field, idf, queryNorm, boost, queryWeight, value := queryWeight * idf.value }

def normalize (weight : ClauseWeight) (queryNorm boost : Float32) : ClauseWeight :=
  normalized weight.field weight.idf queryNorm boost

/-- The part of the clause in the sum that the query norm is computed from. -/
def valueForNormalization (weight : ClauseWeight) : Float32 :=
  weight.queryWeight * weight.queryWeight

@[simp] theorem normalize_normalize (weight : ClauseWeight) (n₁ b₁ n₂ b₂ : Float32) :
    (weight.normalize n₁ b₁).normalize n₂ b₂ = weight.normalize n₂ b₂ := rfl

end ClauseWeight

namespace Similarity

def explainIdf (similarity : Similarity) (field : FieldStatistics) (term : TermStatistics) :
    Except Fault Explanation := do
  let docCount := field.effectiveDocCount
  let idf ← similarity.idf term.docFreq docCount
  return .leaf idf (.idf term.docFreq docCount)

/-- The rarity of a phrase: the sum of those of its terms, in double precision. -/
def explainIdfSum (similarity : Similarity) (field : FieldStatistics)
    (terms : List TermStatistics) : Except Fault Explanation := do
  let details ← terms.mapM (similarity.explainIdf field)
  let sum := details.foldl (fun sum detail => sum + widen detail.value) 0.0
  return .matched (narrow sum) .idfSum details

/-- The weight of a term, or of the terms of a phrase. -/
def clauseWeight (similarity : Similarity) (field : FieldStatistics)
    (terms : List TermStatistics) : Except Fault ClauseWeight := do
  let idf ← match terms with
    | [term] => similarity.explainIdf field term
    | _ => similarity.explainIdfSum field terms
  return .normalized field.field idf 1.0 1.0

end Similarity

end Relevance
