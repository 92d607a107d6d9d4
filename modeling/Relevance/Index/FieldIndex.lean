import Relevance.Fault
import Relevance.Index.Document
import Relevance.Index.Norm
import Relevance.Index.Statistics
import Relevance.Scoring.Similarity
import Std.Data.ExtTreeMap
import Std.Data.ExtTreeSet

set_option autoImplicit false

namespace Relevance

/-- A term of a field and its positions there, in ascending order. -/
abbrev TermPositions := Term × List UInt32

def sortPositions (positions : List UInt32) : List UInt32 :=
  positions.mergeSort fun a b => decide (a ≤ b)

/-- The positions of a term among tokens, in ascending order. -/
def positionsOf (term : Term) (tokens : List Token) : List UInt32 :=
  sortPositions ((tokens.filter (·.term = term)).map Token.position)

def groupByTerm (tokens : List Token) : List TermPositions :=
  (tokens.map Token.term).eraseDups.map fun term => (term, positionsOf term tokens)

/-- Number of tokens on the position of the token before them. -/
def overlapCount (tokens : List Token) : Nat :=
  (tokens.zip tokens.tail).countP fun pair => pair.1.position = pair.2.position

abbrev DocSet := Std.ExtTreeSet DocId

structure FieldIndex where
  /-- The documents that have a term. -/
  postings : Std.ExtTreeMap Term DocSet
  /-- The terms of a document. -/
  positions : Std.ExtTreeMap DocId (List TermPositions)
  /-- Number of documents with a token. -/
  docCount : Nat
  /-- Number of tokens. -/
  tokenCount : Nat
  /-- Number of pairs of a document and a term that it has. -/
  termCount : Nat
  /-- None for a field whose length does not count. -/
  norms : Option NormTable

namespace FieldIndex

def empty : FieldIndex :=
  ⟨∅, ∅, 0, 0, 0, none⟩

/-- The index with a new table of norms, if there is to be one. -/
def withTable (field : FieldIndex) (norms : Bool) : FieldIndex :=
  if norms then { field with norms := some #[] } else field

def docs? (field : FieldIndex) (term : Term) : Option DocSet :=
  field.postings[term]?

def positionsIn (field : FieldIndex) (doc : DocId) (term : Term) : List UInt32 :=
  (field.positions[doc]?.bind (·.lookup term)).getD []

def enter (doc : DocId) (postings : Std.ExtTreeMap Term DocSet) (term : Term) :
    Std.ExtTreeMap Term DocSet :=
  postings.alter term fun docs => some ((docs.getD ∅).insert doc)

/-- Takes a document out from under a term, and the term itself with its last document. -/
def withdraw (doc : DocId) (postings : Std.ExtTreeMap Term DocSet) (term : Term) :
    Std.ExtTreeMap Term DocSet :=
  postings.alter term fun docs => (docs.map (·.erase doc)).filter fun docs => !docs.isEmpty

/-- The table with the norm of a document put in its place. -/
def setNorm (table : NormTable) (doc : DocId) (norm : UInt8) : Except Fault NormTable :=
  if doc < table.size then .ok (table.setIfInBounds doc norm)
  else .error (.indexOutOfBounds table.size doc)

/-- The norm of the length of a field: one over the root of the number of tokens that do not share
the position of the token before them. -/
def lengthNorm (tokens : List Token) : UInt8 :=
  Norm.encode
    (Similarity.lengthNorm 1.0 (.ofNat tokens.length) (.ofNat (overlapCount tokens)) true)

/-- Adds a document with the given tokens, grouped by term. -/
def add (field : FieldIndex) (doc : DocId) (tokens : List Token) (groups : List TermPositions) :
    Except Fault FieldIndex := do
  let docCount ← if tokens.isEmpty then pure field.docCount else checkedAdd field.docCount 1
  let tokenCount ← checkedAdd field.tokenCount tokens.length
  let termCount ← checkedAdd field.termCount groups.length
  let norms ← match field.norms with
    | some table =>
      if tokens.isEmpty then pure (some table)
      else some <$> setNorm (table.grow doc) doc (lengthNorm tokens)
    | none => pure none
  return {
    postings := (groups.map Prod.fst).foldl (enter doc) field.postings
    positions := field.positions.insert doc groups
    docCount, tokenCount, termCount, norms }

def tokenTotal (groups : List TermPositions) : Nat :=
  groups.foldl (fun total group => total + group.2.length) 0

/-- Removes a document; nothing changes if it was not added. -/
def remove (field : FieldIndex) (doc : DocId) : Except Fault FieldIndex :=
  match field.positions[doc]? with
  | none => .ok field
  | some groups => do
    let tokens := tokenTotal groups
    let docCount ← if tokens = 0 then pure field.docCount else checkedSub field.docCount 1
    let tokenCount ← checkedSub field.tokenCount tokens
    let termCount ← checkedSub field.termCount groups.length
    return {
      postings := (groups.map Prod.fst).foldl (withdraw doc) field.postings
      positions := field.positions.erase doc
      docCount, tokenCount, termCount
      norms := field.norms.map (·.setIfInBounds doc 0) }

def termStatistics (field : FieldIndex) (term : Term) : TermStatistics :=
  match field.docs? term with
  | some docs =>
    ⟨term, docs.size,
      docs.toList.foldl (fun total doc => total + (field.positionsIn doc term).length) 0⟩
  | none => ⟨term, 0, 0⟩

end FieldIndex

end Relevance
