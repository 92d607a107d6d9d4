import Relevance.Proofs.Index.Exact

set_option autoImplicit false

namespace Relevance

namespace NormTable

variable {table : NormTable}

theorem norm_grow (table : NormTable) (doc other : Nat) :
    (table.grow doc).norm other = table.norm other := by
  simp only [norm, grow, Array.getD_eq_getD_getElem?, Array.getElem?_append,
    Array.getElem?_replicate]
  split
  · rfl
  · rename_i beyond
    rw [Array.getElem?_eq_none (Nat.le_of_not_lt beyond)]
    split <;> rfl

theorem norm_set_of_ne {doc other : Nat} (differs : doc ≠ other) (norm : UInt8) :
    NormTable.norm (table.setIfInBounds doc norm) other = table.norm other := by
  simp only [NormTable.norm, Array.getD_eq_getD_getElem?, Array.getElem?_setIfInBounds_ne differs]

theorem norm_clear (table : NormTable) (doc : Nat) :
    NormTable.norm (table.setIfInBounds doc 0) doc = 0 := by
  simp only [NormTable.norm, Array.getD_eq_getD_getElem?, Array.getElem?_setIfInBounds_self]
  split <;> rfl

/-- A table that has grown has a place for the document. -/
theorem norm_set_grow (table : NormTable) (doc : Nat) (norm : UInt8) :
    NormTable.norm ((table.grow doc).setIfInBounds doc norm) doc = norm := by
  have inside : doc < (table.grow doc).size := by
    simp only [grow, Array.size_append, Array.size_replicate]
    omega
  simp only [NormTable.norm, Array.getD_eq_getD_getElem?, Array.getElem?_setIfInBounds_self,
    inside, ↓reduceIte, Option.getD_some]

end NormTable

namespace FieldIndex

/-- The norm of the tokens of a document: none of its tokens read as zero. -/
def normOf (tokens : List Token) : UInt8 :=
  if tokens = [] then 0 else lengthNorm tokens

/-- The norm of a document, in a field whose length counts. -/
def norm? (field : FieldIndex) (doc : DocId) : Option UInt8 :=
  field.norms.map (·.norm doc)

variable {field next : FieldIndex} {doc other : DocId}

theorem norm?_withTable (field : FieldIndex) (norms : Bool) (doc : DocId) :
    (field.withTable norms).norm? doc = if norms then some 0 else field.norm? doc := by
  cases norms <;> rfl

theorem norm?_add_of_ne {tokens : List Token} {groups : List TermPositions} (differs : doc ≠ other)
    (success : field.add doc tokens groups = .ok next) : next.norm? other = field.norm? other := by
  obtain ⟨-, -, -, rfl⟩ := add_eq_ok_iff.mp success
  simp only [norm?, added, Option.map_map]
  refine Option.map_congr fun table _ => ?_
  simp only [Function.comp_apply]
  split
  · rfl
  · rw [NormTable.norm_set_of_ne differs, NormTable.norm_grow]

/-- A new document has the norm of its tokens, if its number has read as zero before. -/
theorem norm?_add_self {tokens : List Token} {groups : List TermPositions}
    (fresh : field.norm? doc = field.norms.map fun _ => 0)
    (success : field.add doc tokens groups = .ok next) :
    next.norm? doc = field.norms.map fun _ => normOf tokens := by
  obtain ⟨-, -, -, rfl⟩ := add_eq_ok_iff.mp success
  simp only [norm?, added, Option.map_map, normOf] at fresh ⊢
  split
  · exact fresh
  · refine Option.map_congr fun table _ => ?_
    exact NormTable.norm_set_grow table doc _

theorem norm?_remove_of_ne (differs : doc ≠ other) (success : field.remove doc = .ok next) :
    next.norm? other = field.norm? other := by
  cases present : field.positions[doc]? with
  | none =>
    rw [remove_of_absent present] at success
    cases success
    rfl
  | some groups =>
    obtain ⟨-, -, -, rfl⟩ := (remove_eq_ok_iff present).mp success
    simp only [norm?, removed, Option.map_map]
    exact Option.map_congr fun table _ => NormTable.norm_set_of_ne differs 0

theorem norm?_remove_self {groups : List TermPositions}
    (present : field.positions[doc]? = some groups) (success : field.remove doc = .ok next) :
    next.norm? doc = field.norms.map fun _ => 0 := by
  obtain ⟨-, -, -, rfl⟩ := (remove_eq_ok_iff present).mp success
  simp only [norm?, removed, Option.map_map]
  exact Option.map_congr fun table _ => NormTable.norm_clear table doc

/-- That a field has a norm for a document is a matter of the field. -/
theorem map_norms_eq (field : FieldIndex) (doc : DocId) (norm : UInt8) :
    (field.norms.map fun _ => norm) = (field.norm? doc).map fun _ => norm := by
  rw [norm?, Option.map_map]
  rfl

end FieldIndex

/-- Whether a number was given to a field whose length counts. -/
def Schema.hasNorms (schema : Schema) (id : FieldId) : Bool :=
  schema.fields.zipIdx.any fun entry => id = .ofNat entry.2 && entry.1.flags.norms

theorem Schema.hasNorms_append {schema next : Schema} {field : Field}
    (appended : next.fields = schema.fields ++ [field]) (id : FieldId) :
    next.hasNorms id =
      (schema.hasNorms id || decide (id = schema.nextId) && field.flags.norms) := by
  simp only [hasNorms, appended, List.zipIdx_append, List.any_append, List.zipIdx_singleton,
    List.any_cons, List.any_nil, Bool.or_false, Nat.zero_add, nextId]
  rfl

theorem Schema.hasNorms_iff {schema : Schema} {id : FieldId} : schema.hasNorms id = true ↔
    ∃ (place : Nat) (field : Field), schema.fields[place]? = some field ∧ id = .ofNat place ∧
      field.flags.norms = true := by
  simp only [hasNorms, List.any_eq_true, Bool.and_eq_true, decide_eq_true_eq, Prod.exists,
    List.mem_zipIdx_iff_getElem?]
  exact exists_comm

/-- No length counts under a number that was never given out. -/
theorem Schema.hasNorms_of_le {schema : Schema} {id : FieldId}
    (outside : schema.fields.length ≤ id.toNat) : schema.hasNorms id = false := by
  by_contra flagged
  obtain ⟨place, field, present, rfl, -⟩ := hasNorms_iff.mp ((Bool.not_eq_false _).mp flagged)
  obtain ⟨inside, -⟩ := List.getElem?_eq_some_iff.mp present
  rw [UInt32.toNat_ofNat'] at outside
  exact absurd (Nat.le_trans outside (Nat.mod_le _ _)) (Nat.not_le_of_lt inside)

namespace Index

/-- The norms of every field are those of the tokens of its documents. -/
def Normed (index : Index) : Prop :=
  ∀ (id : FieldId) (field : FieldIndex), index.fields[id]? = some field → ∀ doc,
    field.norm? doc = if index.schema.hasNorms id
      then some (FieldIndex.normOf (index.searchable doc id)) else none

theorem normed_empty (similarity : Similarity) : (empty similarity).Normed := by
  intro id field present
  simp [empty] at present

variable {index next : Index}

/-- A document without a field has no tokens in it. -/
theorem searchable_of_without {id : FieldId} {doc : DocId}
    (without : ∀ document tokens, index.documents[doc]? = some document →
      (id, tokens) ∉ document.tokens) : index.searchable doc id = [] := by
  unfold searchable document?
  cases stored : index.documents[doc]? with
  | none => rfl
  | some document =>
    cases found : document.tokens.lookup id with
    | none => simp only [found, Option.getD_none, ite_self]
    | some tokens =>
      exact absurd (Document.mem_tokens_iff.mpr found) (without document tokens stored)

theorem searchable_of_indexed {id : FieldId} {doc : DocId} {document : Document}
    {tokens : List Token} (stored : index.documents[doc]? = some document)
    (indexed : index.schema.isIndexed id = true) (member : (id, tokens) ∈ document.tokens) :
    index.searchable doc id = tokens := by
  rw [Document.mem_tokens_iff] at member
  simp only [searchable, document?, stored, indexed, member, ↓reduceIte, Option.getD_some]

theorem searchable_of_unindexed {id : FieldId} (unindexed : index.schema.isIndexed id = false)
    (doc : DocId) : index.searchable doc id = [] := by
  unfold searchable
  split <;> simp [unindexed]

theorem searchable_congr {id : FieldId} {doc : DocId}
    (documents : next.documents[doc]? = index.documents[doc]?)
    (indexed : next.schema.isIndexed id = index.schema.isIndexed id) :
    next.searchable doc id = index.searchable doc id := by
  simp only [searchable, document?, documents, indexed]

theorem Normed.addField {field : Field} {id : FieldId} (normed : index.Normed)
    (sound : index.Sound) (success : index.addField field = .ok (next, id))
    (without : ∀ (doc : DocId) (document : Document) (tokens : List Token),
      index.documents[doc]? = some document → (id, tokens) ∉ document.tokens) : next.Normed := by
  intro other kept present doc
  obtain ⟨schema, appended, new, same⟩ := addField_eq_ok success
  have registers : next.schema = schema := by rw [same]
  have documents : next.documents = index.documents := by rw [same]
  have read : ∀ (id : FieldId) (kept : FieldIndex), index.fields[id]? = some kept →
      next.searchable doc id = index.searchable doc id := by
    intro id kept old
    have registered : id.toNat < index.schema.fields.length := by
      rw [← sound.registered_iff, old, Option.isSome_some]
    exact searchable_congr (by rw [documents])
      (by rw [registers, Schema.isIndexed_of_append appended registered])
  rw [registers, Schema.hasNorms_append appended]
  rcases getElem?_addField success present with ⟨rfl, before, found, rfl⟩ | ⟨differs, old⟩
  · -- no document has the field, so a new table reads as the old one
    have nothing := searchable_of_without (documents ▸ without doc)
    have earlier : before.norm? doc = if index.schema.hasNorms other then some 0 else none := by
      rcases found with old | ⟨absent, rfl⟩
      · rw [normed other before old doc, ← read other before old, nothing]
        rfl
      · have outside : ¬ other.toNat < index.schema.fields.length := by
          rw [← sound.registered_iff, absent]
          exact nofun
        rw [Schema.hasNorms_of_le (Nat.le_of_not_lt outside)]
        rfl
    rw [FieldIndex.norm?_withTable, earlier, nothing, new, decide_eq_true rfl, Bool.true_and]
    cases field.flags.norms <;> cases index.schema.hasNorms index.schema.nextId <;> rfl
  · rw [normed other kept old doc, read other kept old, decide_eq_false (new ▸ differs),
      Bool.false_and, Bool.or_false]

/-- A removed document has no norm, and all others keep theirs. -/
theorem Normed.erase {key : String} {removed : Bool} (normed : index.Normed)
    (sound : index.Sound) (complete : index.Complete)
    (success : index.erase key = .ok (next, removed)) : next.Normed := by
  rcases Index.erase_eq_ok success with ⟨-, rfl, -⟩ | ⟨doc, after, -, -, same, fields⟩
  · exact normed
  have schema : next.schema = index.schema := by rw [same]
  have documents : next.documents = index.documents.erase doc := by rw [same]
  intro id left present other
  obtain ⟨field, before, change⟩ := fields.of_present id left (by rwa [same] at present)
  have old := normed id field before
  rw [schema]
  by_cases own : doc = other
  · subst own
    have gone : next.searchable doc id = [] :=
      searchable_of_without fun document tokens stored => by simp [documents] at stored
    rw [gone]
    rcases change with ⟨rfl, without⟩ | changed
    · rw [old, searchable_of_without without]
    cases known : field.positions[doc]? with
    | none =>
      have nothing : index.searchable doc id = [] := by
        rw [← List.length_eq_zero_iff, ← tokenTotal_groupByTerm,
          ← sound.groups_eq complete doc before, known]
        rfl
      rw [FieldIndex.remove_of_absent known] at changed
      cases changed
      rw [old, nothing]
    | some groups =>
      rw [FieldIndex.norm?_remove_self known changed, FieldIndex.map_norms_eq field doc, old]
      split <;> rfl
  · have stays : next.searchable other id = index.searchable other id :=
      searchable_congr (by rw [documents, DocMap.getElem?_erase_of_ne own]) (by rw [schema])
    rw [stays, ← old other]
    rcases change with ⟨rfl, -⟩ | changed
    · rfl
    · exact FieldIndex.norm?_remove_of_ne own changed

/-- A new document has the norms of its tokens, and all others keep theirs. -/
theorem Normed.insert {document : Document} {doc : DocId} (normed : index.Normed)
    (sound : index.Sound) (complete : index.Complete)
    (success : index.insert document = .ok (next, doc)) : next.Normed := by
  obtain ⟨cleared, removed, after, erased, -, -, same, fields⟩ := Index.insert_eq_ok success
  have clean : cleared.Sound := sound.erase erased
  have schema : next.schema = cleared.schema := by rw [same]
  have documents : next.documents = cleared.documents.insert cleared.nextId document := by rw [same]
  intro id grown present other
  obtain ⟨field, before, change⟩ := fields.of_present id grown (by rwa [same] at present)
  have old := (normed.erase sound complete erased) id field before
  rw [schema]
  by_cases own : cleared.nextId = other
  · subst own
    have fresh : cleared.searchable cleared.nextId id = [] :=
      searchable_of_without fun other _ stored =>
        absurd (clean.issued cleared.nextId other stored) (Nat.lt_irrefl _)
    have stored : next.documents[cleared.nextId]? = some document := by simp [documents]
    rcases change with ⟨rfl, unindexed⟩ | ⟨tokens, member, indexed, changed⟩
    · have nothing : next.searchable cleared.nextId id = [] := by
        by_cases known : ∃ tokens, (id, tokens) ∈ document.tokens
        · obtain ⟨tokens, member⟩ := known
          exact searchable_of_unindexed (schema ▸ unindexed tokens member) _
        · refine searchable_of_without fun found tokens there member => known ⟨tokens, ?_⟩
          rw [stored] at there
          cases there
          exact member
      rw [old, fresh, nothing]
    · have zero : field.norm? cleared.nextId = field.norms.map fun _ => 0 := by
        rw [FieldIndex.map_norms_eq field cleared.nextId, old, fresh]
        split <;> rfl
      rw [searchable_of_indexed stored (schema ▸ indexed) member,
        FieldIndex.norm?_add_self zero changed, FieldIndex.map_norms_eq field cleared.nextId, old]
      split <;> rfl
  · have stays : next.searchable other id = cleared.searchable other id :=
      searchable_congr (by rw [documents, DocMap.getElem?_insert_of_ne own]) (by rw [schema])
    rw [stays, ← old other]
    rcases change with ⟨rfl, -⟩ | ⟨tokens, -, -, changed⟩
    · rfl
    · exact FieldIndex.norm?_add_of_ne own changed

theorem normed_of_run {similarity : Similarity} {operations : List Operation}
    (first : FieldsFirst similarity operations) (reached : run similarity operations = .ok index) :
    index.Normed := by
  refine run_induction (motive := fun operations index =>
    FieldsFirst similarity operations → index.Normed)
    (fun _ => normed_empty similarity) ?_ reached first
  intro operations index operation next earlier normed performed first
  have known : index.Normed := normed first.of_append
  have sound : index.Sound := sound_of_run earlier
  have complete : index.Complete := complete_of_run first.of_append earlier
  cases operation with
  | addField field =>
    rcases perform_addField performed with ⟨id, registered⟩ | rfl
    · refine known.addField sound registered fun doc document tokens stored member => ?_
      exact first operations [] field index next id document rfl earlier registered
        (inserted_of_run earlier stored) (List.mem_map_of_mem member)
    · exact known
  | insert document =>
    obtain ⟨⟨_, doc⟩, inserted, rfl⟩ := Fault.map_eq_ok_iff.mp performed
    exact known.insert sound complete inserted
  | erase key =>
    obtain ⟨⟨_, removed⟩, erased, rfl⟩ := Fault.map_eq_ok_iff.mp performed
    exact known.erase sound complete erased

/-- After a run a document has a norm in the fields whose length counts, and it is that of its
tokens. -/
theorem Normed.norms_eq (normed : index.Normed) (sound : index.Sound) (doc : DocId)
    (field : FieldId) : (index.norms? field).map (·.norm doc) =
      if index.schema.hasNorms field then
        some (FieldIndex.normOf (index.searchable doc field)) else none := by
  unfold norms?
  cases present : index.fields[field]? with
  | some kept => exact normed field kept present doc
  | none =>
    have outside : ¬ field.toNat < index.schema.fields.length := by
      rw [← sound.registered_iff, present]
      exact nofun
    rw [Schema.hasNorms_of_le (Nat.le_of_not_lt outside)]
    rfl

end Index

end Relevance
