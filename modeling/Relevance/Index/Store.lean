import Relevance.Index.Document
import Relevance.Index.FieldIndex

set_option autoImplicit false

namespace Relevance

/-- An index. Lengths are weighed as its similarity says, so it should be searched with that one. -/
structure Index where
  schema : Schema
  similarity : Similarity
  nextId : DocId
  ids : Std.ExtTreeMap String DocId
  documents : Std.ExtTreeMap DocId Document
  fields : Std.ExtTreeMap FieldId FieldIndex

namespace Index

def empty (similarity : Similarity) : Index :=
  ⟨.empty, similarity, 0, ∅, ∅, ∅⟩

/-- Registers a field. A number that is given out again keeps what was looked up under it. -/
def addField (index : Index) (field : Field) : Except SchemaError (Index × FieldId) := do
  let (schema, id) ← index.schema.add field
  let kept := index.fields[id]?.getD .empty
  let fields := index.fields.insert id (kept.withTable field.flags.norms)
  return ({ index with schema, fields }, id)

def updateField (fields : Std.ExtTreeMap FieldId FieldIndex) (id : FieldId)
    (change : FieldIndex → Except Fault FieldIndex) :
    Except Fault (Std.ExtTreeMap FieldId FieldIndex) :=
  match fields[id]? with
  | some field => return fields.insert id (← change field)
  | none => .ok fields

/-- Removes the document under a key. The answer is whether there was one. -/
def erase (index : Index) (key : String) : Except Fault (Index × Bool) :=
  match index.ids[key]? with
  | none => .ok (index, false)
  | some id => do
    let tokens := (index.documents[id]?.map Document.tokens).getD []
    let fields ← tokens.foldlM (fun fields entry =>
      updateField fields entry.1 (·.remove id)) index.fields
    return ({ index with
      ids := index.ids.erase key, documents := index.documents.erase id, fields }, true)

/-- Inserts a document, in place of the one under its key. Of its fields, those registered as
indexed are looked up from now on. The answer is its number. -/
def insert (index : Index) (document : Document) : Except Fault (Index × DocId) := do
  let (index, _) ← index.erase document.key
  let id := index.nextId
  let nextId ← checkedAdd id 1
  let searchable := document.tokens.filter fun entry => index.schema.isIndexed entry.1
  let fields ← searchable.foldlM (fun fields entry =>
    updateField fields entry.1 (·.add id entry.2 (groupByTerm entry.2))) index.fields
  return ({ index with
    nextId
    ids := index.ids.insert document.key id
    documents := index.documents.insert id document
    fields }, id)

def idOf? (index : Index) (key : String) : Option DocId :=
  index.ids[key]?

def document? (index : Index) (id : DocId) : Option Document :=
  index.documents[id]?

def docIds (index : Index) : List DocId :=
  index.documents.keys

def docCount (index : Index) : Nat :=
  index.documents.size

/-- One more than the largest number given out. -/
def maxDoc (index : Index) : Nat :=
  index.nextId

def storedText? (index : Index) (id : DocId) (field : FieldId) : Option String :=
  (index.document? id).bind (·.text? field)

/-- The counts for a field; a number that was never given out has an empty name. -/
def fieldStatistics (index : Index) (field : FieldId) : FieldStatistics :=
  let name := ((index.schema.get? field).map Field.name).getD ""
  match index.fields[field]? with
  | some counts =>
    ⟨name, index.maxDoc, counts.docCount, counts.tokenCount, counts.termCount⟩
  | none => ⟨name, index.maxDoc, 0, 0, 0⟩

def termStatistics (index : Index) (field : FieldId) (term : Term) : TermStatistics :=
  match index.fields[field]? with
  | some counts => counts.termStatistics term
  | none => ⟨term, 0, 0⟩

/-- The documents with a term in a field, in ascending order; none if there are none. -/
def docsWithTerm? (index : Index) (field : FieldId) (term : Term) : Option (List DocId) :=
  (index.fields[field]?.bind (·.docs? term)).map (·.toList)

/-- The positions of a term in a field of a document, in ascending order. -/
def positions (index : Index) (id : DocId) (field : FieldId) (term : Term) : List UInt32 :=
  (index.fields[field]?.map (·.positionsIn id term)).getD []

/-- The norms of a field; none for a field whose length does not count. -/
def norms? (index : Index) (field : FieldId) : Option NormTable :=
  index.fields[field]?.bind FieldIndex.norms

end Index

end Relevance
