import Relevance.Analysis.Term

set_option autoImplicit false

namespace Relevance

/-- Counts for one field. `-1` stands for a count that is not known. -/
structure FieldStatistics where
  field : String
  /-- One more than the largest document number given out, deleted documents included. -/
  maxDoc : Nat
  /-- Number of documents with a token in the field. -/
  docCount : Int
  /-- Number of tokens in the field. -/
  sumTotalTermFreq : Int
  /-- Sum over all documents of the number of distinct terms in the field. -/
  sumDocFreq : Int
  deriving DecidableEq, Repr

/-- The count of documents that rarity is measured against: those with a token in the field, or,
where that is not known, all. The count is read as an unsigned word. -/
def FieldStatistics.effectiveDocCount (statistics : FieldStatistics) : Nat :=
  if statistics.docCount = -1 then statistics.maxDoc
  else (statistics.docCount % UInt64.size).toNat

structure TermStatistics where
  term : Term
  /-- Number of documents with the term in the field. -/
  docFreq : Nat
  /-- Number of times the term stands in the field. -/
  totalTermFreq : Int
  deriving DecidableEq, Repr

end Relevance
