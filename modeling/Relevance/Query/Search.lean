import Relevance.Query.Collector
import Relevance.Query.Plan

set_option autoImplicit false

namespace Relevance

namespace Plan

/-- The query norm of a plan; one for a plan whose clauses have no weight to speak of. -/
def queryNorm (plan : Plan) : Float32 :=
  let norm := Similarity.queryNorm plan.valueForNormalization
  if norm.isFinite then norm else 1.0

/-- The candidates that match, with their scores, in ascending order. -/
def hits (index : Index) (similarity : Similarity) (plan : Plan) :
    Except Fault (List ScoredDoc) :=
  (plan.candidates index).toList.filterMapM fun doc => do
    return (← plan.score index similarity doc).map (⟨doc, ·⟩)

end Plan

namespace Index

def plan (index : Index) (similarity : Similarity) (query : Query) : Except Fault Plan := do
  let plan ← Plan.ofQuery index similarity query
  return plan.normalize plan.queryNorm

def search {α : Type} (index : Index) (similarity : Similarity) (query : Query)
    (collector : Collector α) (start : α) : Except Fault α := do
  let hits ← (← index.plan similarity query).hits index similarity
  return hits.foldl (fun state hit =>
    collector.collect state ⟨hit.doc, if collector.needsScore then some hit.score else none⟩) start

/-- The score of one document; none if it does not match. -/
def score (index : Index) (similarity : Similarity) (query : Query) (doc : DocId) :
    Except Fault (Option Float32) := do
  (← index.plan similarity query).score index similarity doc

/-- Why a document has its score; the value at the root is that score. -/
def explain (index : Index) (similarity : Similarity) (query : Query) (doc : DocId) :
    Except Fault Explanation := do
  (← index.plan similarity query).explain index similarity doc

end Index

end Relevance
