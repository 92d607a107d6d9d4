import Relevance.Proofs.Index.Keyed
import Relevance.Proofs.Index.Norms
import Relevance.Proofs.Index.Resembling
import Relevance.Proofs.Index.Statistics

set_option autoImplicit false

namespace Relevance

/-- An order in which the terms of the fields of a document are gone through. -/
structure Visit where
  groups : FieldId → List Token → List TermPositions
  perm : ∀ field tokens, (groups field tokens).Perm (groupByTerm tokens)

def Visit.inOrder : Visit :=
  ⟨fun _ => groupByTerm, fun _ _ => .refl _⟩

namespace Index

/-- Inserts a document whose terms are gone through in the given order. -/
def insertVisiting (visit : Visit) (index : Index) (document : Document) :
    Except Fault (Index × DocId) := do
  let (index, _) ← index.erase document.key
  let id := index.nextId
  let nextId ← checkedAdd id 1
  let searchable := document.tokens.filter fun entry => index.schema.isIndexed entry.1
  let fields ← searchable.foldlM (fun fields entry =>
    updateField fields entry.1 (·.add id entry.2 (visit.groups entry.1 entry.2))) index.fields
  return ({ index with
    nextId
    ids := index.ids.insert document.key id
    documents := index.documents.insert id document
    fields }, id)

theorem insertVisiting_inOrder (index : Index) (document : Document) :
    insertVisiting .inOrder index document = index.insert document := rfl

/-- Takes one step, with the order in which a new document's terms are gone through. -/
def performVisiting (index : Index) : Operation × Visit → Except Fault Index
  | (.insert document, visit) => Prod.fst <$> index.insertVisiting visit document
  | (operation, _) => index.perform operation

/-- The index that a sequence of operations leads to, each with an order of visiting. -/
def runVisiting (similarity : Similarity) (history : List (Operation × Visit)) :
    Except Fault Index :=
  history.foldlM performVisiting (empty similarity)

/-- A run goes through terms in the order of the text. -/
theorem runVisiting_inOrder (similarity : Similarity) (operations : List Operation) :
    runVisiting similarity (operations.map (·, .inOrder)) = run similarity operations := by
  unfold runVisiting run
  rw [List.foldlM_map]
  congr 1
  funext index operation
  cases operation <;> rfl

end Index

namespace FieldIndex

variable {field other next : FieldIndex} {doc : DocId}

/-- Two stages of a field differ only in the order of the terms of each document. -/
structure Shuffles (field other : FieldIndex) : Prop where
  postings_eq : field.postings = other.postings
  positions_rel : ∀ doc : DocId,
    Option.Rel List.Perm field.positions[doc]? other.positions[doc]?
  docCount_eq : field.docCount = other.docCount
  tokenCount_eq : field.tokenCount = other.tokenCount
  termCount_eq : field.termCount = other.termCount
  norms_eq : field.norms = other.norms

theorem tokenTotal_eq_of_perm {groups sorted : List TermPositions} (perm : groups.Perm sorted) :
    tokenTotal groups = tokenTotal sorted := by
  rw [tokenTotal_eq_sum, tokenTotal_eq_sum, (perm.map _).sum_eq]

/-- Shuffled groups are of as many tokens, under the same terms. -/
theorem countable_perm : Countable List.Perm :=
  ⟨fun perm => perm.map _, tokenTotal_eq_of_perm⟩

theorem shuffles_eq : Shuffles = Resembles List.Perm := by
  funext field other
  exact propext ⟨fun ⟨postings, positions, docs, tokens, terms, norms⟩ =>
      ⟨postings, positions, docs, tokens, terms, norms⟩,
    fun ⟨postings, positions, docs, tokens, terms, norms⟩ =>
      ⟨postings, positions, docs, tokens, terms, norms⟩⟩

theorem shuffles_withTable {first second : Option FieldIndex}
    (relates : Option.Rel Shuffles first second) (norms : Bool) :
    ((first.getD .empty).withTable norms).Shuffles ((second.getD .empty).withTable norms) := by
  rw [shuffles_eq] at relates ⊢
  exact resembles_withTable relates norms

/-- Entering terms in another order makes no other difference. -/
theorem Shuffles.add {tokens : List Token} {groups sorted : List TermPositions}
    (shuffles : field.Shuffles other) (perm : groups.Perm sorted)
    (success : field.add doc tokens groups = .ok next) :
    ∃ twin, other.add doc tokens sorted = .ok twin ∧ next.Shuffles twin := by
  rw [shuffles_eq] at shuffles ⊢
  exact shuffles.add countable_perm perm rfl rfl success

theorem Shuffles.remove (shuffles : field.Shuffles other) (success : field.remove doc = .ok next) :
    ∃ twin, other.remove doc = .ok twin ∧ next.Shuffles twin := by
  rw [shuffles_eq] at shuffles ⊢
  exact shuffles.remove countable_perm success

/-- Looking up a term does not depend on the order of terms, as long as each has one group. -/
theorem Shuffles.positionsIn_eq (shuffles : field.Shuffles other)
    (distinct : ∀ groups, other.positions[doc]? = some groups → (groups.map Prod.fst).Nodup)
    (term : Term) : field.positionsIn doc term = other.positionsIn doc term := by
  have listed := shuffles.positions_rel doc
  unfold positionsIn
  generalize field.positions[doc]? = first at listed ⊢
  generalize other.positions[doc]? = second at listed distinct ⊢
  cases listed with
  | none => rfl
  | some perm => rw [Option.bind_some, Option.bind_some, lookup_eq_of_perm perm (distinct _ rfl)]

end FieldIndex

namespace Index

/-- Two indexes differ only in the order of the terms of each document. -/
structure Shuffles (index other : Index) : Prop where
  schema_eq : index.schema = other.schema
  nextId_eq : index.nextId = other.nextId
  ids_eq : index.ids = other.ids
  documents_eq : index.documents = other.documents
  fields_rel : FieldsRelated FieldIndex.Shuffles index.fields other.fields

variable {index other next : Index}

theorem Shuffles.erase {key : String} {removed : Bool} (shuffles : index.Shuffles other)
    (success : index.erase key = .ok (next, removed)) :
    ∃ twin, other.erase key = .ok (twin, removed) ∧ next.Shuffles twin := by
  obtain ⟨schema, nextId, ids, documents, fields⟩ := id shuffles
  unfold Index.erase at success ⊢
  rw [← ids, ← documents]
  split at success
  · cases success
    exact ⟨other, rfl, shuffles⟩
  · rename_i doc present
    obtain ⟨after, updated, done⟩ := Fault.bind_eq_ok_iff.mp success
    cases done
    obtain ⟨later, twinned, relates⟩ :=
      updateFields_simulates fields (List.forall₂_same.mpr fun _ _ =>
        ⟨rfl, fun _ _ pair _ removes => pair.remove removes⟩) updated
    refine ⟨{ other with
      ids := index.ids.erase key, documents := index.documents.erase doc, fields := later }, ?_,
      schema, nextId, rfl, rfl, relates⟩
    simp only [twinned]
    rfl

/-- Inserting with any order of visiting differs from inserting in the order of terms only. -/
theorem Shuffles.insert {visit : Visit} {document : Document} {doc : DocId}
    (shuffles : index.Shuffles other)
    (success : index.insertVisiting visit document = .ok (next, doc)) :
    ∃ twin, other.insert document = .ok (twin, doc) ∧ next.Shuffles twin := by
  unfold insertVisiting at success
  obtain ⟨⟨cleared, removed⟩, erased, success⟩ := Fault.bind_eq_ok_iff.mp success
  simp only [Fault.bind_eq_ok_iff] at success
  obtain ⟨fits, counted, after, updated, done⟩ := success
  cases done
  obtain ⟨left, twinned, schema, nextId, ids, documents, fields⟩ := shuffles.erase erased
  have each : ∀ entry : FieldId × List Token, entry.1 = entry.1 ∧ ∀ field other : FieldIndex,
      field.Shuffles other → ∀ next,
        field.add cleared.nextId entry.2 (visit.groups entry.1 entry.2) = .ok next →
        ∃ later, other.add cleared.nextId entry.2 (groupByTerm entry.2) = .ok later ∧
          next.Shuffles later :=
    fun entry => ⟨rfl, fun _ _ pair _ adds => pair.add (visit.perm entry.1 entry.2) adds⟩
  obtain ⟨later, twins, relates⟩ := updateFields_simulates fields
    (List.forall₂_same.mpr fun entry _ => each entry) updated
  refine ⟨{ left with
    nextId := fits
    ids := cleared.ids.insert document.key cleared.nextId
    documents := cleared.documents.insert cleared.nextId document
    fields := later }, ?_, schema, rfl, rfl, rfl, relates⟩
  unfold Index.insert
  rw [twinned, Fault.ok_bind]
  simp only [← nextId, ← schema, ← ids, ← documents, counted, twins]
  rfl

theorem Shuffles.perform {step : Operation × Visit} (shuffles : index.Shuffles other)
    (success : index.performVisiting step = .ok next) :
    ∃ twin, other.perform step.1 = .ok twin ∧ next.Shuffles twin := by
  obtain ⟨operation, visit⟩ := step
  cases operation with
  | addField field =>
    obtain ⟨schema, nextId, ids, documents, fields⟩ := id shuffles
    simp only [performVisiting, Index.perform, Index.addField, schema] at success ⊢
    cases registered : other.schema.add field with
    | error reason =>
      rw [registered] at success
      cases success
      exact ⟨other, rfl, shuffles⟩
    | ok result =>
      rw [registered] at success
      cases success
      refine ⟨_, rfl, rfl, nextId, ids, documents, fun id => ?_⟩
      simp only [Std.ExtTreeMap.getElem?_insert]
      split
      · exact .some (FieldIndex.shuffles_withTable (fields result.2) field.flags.norms)
      · exact fields id
  | insert document =>
    obtain ⟨⟨_, doc⟩, inserted, rfl⟩ := Fault.map_eq_ok_iff.mp success
    obtain ⟨twin, twinned, shuffled⟩ := shuffles.insert inserted
    exact ⟨twin, by simp only [Index.perform, twinned, Fault.map_ok], shuffled⟩
  | erase key =>
    obtain ⟨⟨_, removed⟩, erased, rfl⟩ := Fault.map_eq_ok_iff.mp success
    obtain ⟨twin, twinned, shuffled⟩ := shuffles.erase erased
    exact ⟨twin, by simp only [Index.perform, twinned, Fault.map_ok], shuffled⟩

/-- Whatever the orders of visiting, a run in the order of the text comes to the same but for the
order of terms. -/
theorem exists_run_of_visiting {similarity : Similarity} {history : List (Operation × Visit)}
    (reached : runVisiting similarity history = .ok index) :
    ∃ plain, run similarity (history.map Prod.fst) = .ok plain ∧ index.Shuffles plain := by
  have start : (empty similarity).Shuffles (empty similarity) := by
    refine ⟨rfl, rfl, rfl, rfl, fun id => ?_⟩
    simp [empty]
  refine Fault.foldlM_simulates (List.forall₂_map_right_iff.mpr ?_) start reached
  refine List.forall₂_same.mpr fun step _ stage twin shuffles next performed => ?_
  exact shuffles.perform performed

theorem Shuffles.searchable_eq (shuffles : index.Shuffles other) (doc : DocId) (field : FieldId) :
    index.searchable doc field = other.searchable doc field := by
  simp only [searchable, document?, shuffles.documents_eq, shuffles.schema_eq]

theorem Shuffles.docsWithTerm_eq (shuffles : index.Shuffles other) (field : FieldId)
    (term : Term) : index.docsWithTerm? field term = other.docsWithTerm? field term :=
  docsWithTerm_eq_of_resembles (FieldIndex.shuffles_eq ▸ shuffles.fields_rel) field term

theorem Shuffles.norms_eq (shuffles : index.Shuffles other) (field : FieldId) :
    index.norms? field = other.norms? field :=
  norms_eq_of_resembles (FieldIndex.shuffles_eq ▸ shuffles.fields_rel) field

theorem Shuffles.fieldStatistics_eq (shuffles : index.Shuffles other) (field : FieldId) :
    index.fieldStatistics field = other.fieldStatistics field :=
  fieldStatistics_eq_of_resembles shuffles.schema_eq shuffles.nextId_eq
    (FieldIndex.shuffles_eq ▸ shuffles.fields_rel) field

/-- The positions of a term do not depend on the order of terms: each has one group. -/
theorem Shuffles.positions_eq (shuffles : index.Shuffles other) (sound : other.Sound) (doc : DocId)
    (field : FieldId) (term : Term) :
    index.positions doc field term = other.positions doc field term := by
  have known := shuffles.fields_rel field
  unfold positions
  cases present : other.fields[field]? with
  | none =>
    rw [present] at known
    generalize index.fields[field]? = first at known ⊢
    cases known
    rfl
  | some kept =>
    rw [present] at known
    generalize index.fields[field]? = first at known ⊢
    cases known with
    | some pair =>
      refine congrArg (fun positions => (some positions).getD []) (pair.positionsIn_eq ?_ term)
      intro groups entry
      obtain ⟨-, document, tokens, -, -, rfl⟩ :=
        sound.grounded field kept doc groups present entry
      exact nodup_map_fst_groupByTerm tokens

theorem Shuffles.termStatistics_eq (shuffles : index.Shuffles other) (sound : other.Sound)
    (field : FieldId) (term : Term) :
    index.termStatistics field term = other.termStatistics field term := by
  simp only [Index.termStatistics_eq, shuffles.docsWithTerm_eq, shuffles.positions_eq sound]

/-- The tokens of a field in each of the documents. -/
def texts (index : Index) (field : FieldId) : List (List Token) :=
  index.docIds.map fun doc => index.searchable doc field

/-- Everything that an index answers is told by the tokens of its documents. -/
structure Faithful (index : Index) : Prop where
  keyed : index.Keyed
  mem_docsWithTerm_iff : ∀ doc field term, doc ∈ (index.docsWithTerm? field term).getD [] ↔
    term ∈ (index.searchable doc field).map Token.term
  positions_eq : ∀ doc field term,
    index.positions doc field term = positionsOf term (index.searchable doc field)
  termStatistics_eq : ∀ field term, index.termStatistics field term = {
    term
    docFreq := (index.texts field).countP fun tokens => term ∈ tokens.map Token.term
    totalTermFreq := (((index.texts field).map fun tokens =>
      (tokens.map Token.term).count term).sum : Nat) }
  effectiveDocCount_eq : ∀ field, (index.fieldStatistics field).effectiveDocCount =
    (index.texts field).countP (· ≠ [])
  norms_eq : ∀ doc field, (index.norms? field).map (·.norm doc) =
    if index.schema.hasNorms field then
      some (FieldIndex.normOf (index.searchable doc field)) else none

theorem faithful_of_run {similarity : Similarity} {operations : List Operation}
    (first : FieldsFirst similarity operations) (reached : run similarity operations = .ok index) :
    index.Faithful := by
  have sound : index.Sound := sound_of_run reached
  have complete : index.Complete := complete_of_run first reached
  refine ⟨(keyed_of_run reached).1, fun doc field term => ?_, sound.positions_eq complete,
    fun field term => ?_, fun field => ?_, fun doc field => ?_⟩
  · rw [sound.mem_docsWithTerm_iff, sound.positions_eq complete, ne_eq, positionsOf_eq_nil_iff,
      not_not]
  · have docFreq := sound.docFreq_eq complete field term
    have totalTermFreq := sound.totalTermFreq_eq complete field term
    rw [Index.termStatistics_eq] at docFreq totalTermFreq ⊢
    simp only at docFreq totalTermFreq
    simp only [docFreq, totalTermFreq, texts, List.countP_map, List.map_map, Function.comp_def]
  · have effective := sound.effectiveDocCount_eq field
    rw [sound.fieldStatistics_eq complete] at effective ⊢
    simp only [texts, List.countP_map]
    exact Int.ofNat_inj.mp effective
  · exact (normed_of_run first reached).norms_eq sound doc field

theorem Shuffles.faithful (shuffles : index.Shuffles other) (sound : other.Sound)
    (faithful : other.Faithful) : index.Faithful := by
  have texts : index.texts = other.texts := by
    funext field
    simp only [texts, docIds, shuffles.documents_eq, shuffles.searchable_eq]
  refine ⟨⟨?_, ?_⟩, fun doc field term => ?_, fun doc field term => ?_, fun field term => ?_,
    fun field => ?_, fun doc field => ?_⟩
  · rw [shuffles.ids_eq, shuffles.documents_eq]
    exact faithful.keyed.document_of_id
  · rw [shuffles.ids_eq, shuffles.documents_eq]
    exact faithful.keyed.id_of_document
  · rw [shuffles.docsWithTerm_eq, shuffles.searchable_eq, faithful.mem_docsWithTerm_iff]
  · rw [shuffles.positions_eq sound, shuffles.searchable_eq, faithful.positions_eq]
  · rw [shuffles.termStatistics_eq sound, texts, faithful.termStatistics_eq]
  · rw [shuffles.fieldStatistics_eq, texts, faithful.effectiveDocCount_eq]
  · rw [shuffles.norms_eq, shuffles.searchable_eq, shuffles.schema_eq, faithful.norms_eq]

/-- Whatever the orders of visiting, an index answers from the tokens of its documents, and has the
documents last put in under their keys. -/
theorem faithful_of_runVisiting {similarity : Similarity} {history : List (Operation × Visit)}
    (first : FieldsFirst similarity (history.map Prod.fst))
    (reached : runVisiting similarity history = .ok index) :
    index.Faithful ∧ ∀ key, index.documentUnder? key = (bindings (history.map Prod.fst))[key]? := by
  obtain ⟨plain, ordered, shuffles⟩ := exists_run_of_visiting reached
  refine ⟨shuffles.faithful (sound_of_run ordered) (faithful_of_run first ordered), fun key => ?_⟩
  have documents : index.document? = plain.document? := by
    funext id
    rw [document?, document?, shuffles.documents_eq]
  rw [← (keyed_of_run ordered).2, documentUnder?, documentUnder?, idOf?, idOf?, shuffles.ids_eq,
    documents]

end Index

end Relevance
