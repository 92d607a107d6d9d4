import Relevance.Proofs.Index.Steps

set_option autoImplicit false

namespace Relevance.Index

/-- What holds of an index after every run. -/
structure Sound (index : Index) : Prop where
  registered_iff : ∀ id : FieldId,
    (index.fields[id]?).isSome ↔ id.toNat < index.schema.fields.length
  agrees : ∀ (id : FieldId) (field : FieldIndex), index.fields[id]? = some field → field.Agrees
  /-- A field that knows a document is indexed, and what it knows are that document's tokens. -/
  grounded : ∀ (id : FieldId) (field : FieldIndex) (doc : DocId) (groups : List TermPositions),
    index.fields[id]? = some field → field.positions[doc]? = some groups →
    index.schema.isIndexed id = true ∧ ∃ (document : Document) (tokens : List Token),
      index.documents[doc]? = some document ∧ (id, tokens) ∈ document.tokens ∧
        groups = groupByTerm tokens
  issued : ∀ (doc : DocId) (document : Document),
    index.documents[doc]? = some document → doc < index.nextId
  nextId_lt : index.nextId < UInt64.size

/-- Every indexed field knows the tokens of every document. -/
def Complete (index : Index) : Prop :=
  ∀ (id : FieldId) (field : FieldIndex) (doc : DocId) (document : Document) (tokens : List Token),
    index.fields[id]? = some field → index.schema.isIndexed id = true →
    index.documents[doc]? = some document → (id, tokens) ∈ document.tokens →
    field.positions[doc]? = some (groupByTerm tokens)

theorem sound_empty (similarity : Similarity) : (empty similarity).Sound where
  registered_iff id := by simp [empty, Schema.empty]
  agrees id field present := by simp [empty] at present
  grounded id field doc groups present := by simp [empty] at present
  issued doc document present := by simp [empty] at present
  nextId_lt := show 0 < UInt64.size by decide

theorem complete_empty (similarity : Similarity) : (empty similarity).Complete := by
  intro id field doc document tokens present
  simp [empty] at present

/-- The field under a number that is given out is new, or it is there already and stays. -/
theorem getElem?_addField {index next : Index} {field : Field} {new id : FieldId}
    {kept : FieldIndex} (success : index.addField field = .ok (next, new))
    (present : next.fields[id]? = some kept) :
    (id = new ∧ ∃ before : FieldIndex, (index.fields[id]? = some before ∨
        index.fields[id]? = none ∧ before = .empty) ∧ kept = before.withTable field.flags.norms) ∨
      (id ≠ new ∧ index.fields[id]? = some kept) := by
  obtain ⟨schema, -, -, rfl⟩ := addField_eq_ok success
  simp only [Std.ExtTreeMap.getElem?_insert, Std.LawfulEqCmp.compare_eq_iff_eq] at present
  split at present
  · rename_i same
    cases present
    subst same
    refine Or.inl ⟨rfl, _, ?_, rfl⟩
    cases index.fields[new]? with
    | none => exact Or.inr ⟨rfl, rfl⟩
    | some before => exact Or.inl rfl
  · rename_i other
    exact Or.inr ⟨Ne.symm other, present⟩

/-- What holds of a new field and does not depend on its table goes on to hold of every field. -/
theorem forall_fields_addField {index next : Index} {field : Field} {new : FieldId}
    {motive : FieldId → FieldIndex → Prop} (success : index.addField field = .ok (next, new))
    (start : ∀ id, motive id .empty)
    (table : ∀ id kept norms, motive id kept → motive id (kept.withTable norms))
    (all : ∀ (id : FieldId) (kept : FieldIndex), index.fields[id]? = some kept → motive id kept)
    (id : FieldId) (kept : FieldIndex) (present : next.fields[id]? = some kept) :
    motive id kept := by
  rcases getElem?_addField success present with ⟨-, before, old | ⟨-, rfl⟩, rfl⟩ | ⟨-, old⟩
  · exact table id before _ (all id before old)
  · exact table id .empty _ (start id)
  · exact all id kept old

theorem Sound.addField {index next : Index} {field : Field} {id : FieldId} (sound : index.Sound)
    (success : index.addField field = .ok (next, id)) : next.Sound := by
  obtain ⟨schema, appended, same, rfl⟩ := addField_eq_ok success
  refine ⟨?_, ?_, ?_, sound.issued, sound.nextId_lt⟩
  · intro other
    simp only [Std.ExtTreeMap.getElem?_insert, Std.LawfulEqCmp.compare_eq_iff_eq, appended,
      List.length_append, List.length_singleton, Schema.toNat_lt_succ_iff, ← same]
    split
    · rename_i new
      simp only [← new, Option.isSome_some, or_true]
    · rename_i old
      rw [sound.registered_iff, or_iff_left (Ne.symm old)]
  · exact forall_fields_addField success (fun _ => FieldIndex.agrees_empty)
      (fun _ _ norms agrees => agrees.withTable norms) sound.agrees
  · intro other kept doc groups present known
    refine forall_fields_addField (motive := fun id kept => kept.positions[doc]? = some groups →
      schema.isIndexed id = true ∧ ∃ (document : Document) (tokens : List Token),
        index.documents[doc]? = some document ∧ (id, tokens) ∈ document.tokens ∧
          groups = groupByTerm tokens) success ?_ ?_ ?_ other kept present known
    · intro id known
      simp [FieldIndex.empty] at known
    · intro id kept norms grounded known
      rw [FieldIndex.withTable_positions] at known
      exact grounded known
    · intro id kept old known
      obtain ⟨indexed, tokens⟩ := sound.grounded id kept doc groups old known
      refine ⟨?_, tokens⟩
      rw [Schema.isIndexed_of_append appended (Schema.lt_of_isIndexed indexed)]
      exact indexed

/-- A field does not know a document without tokens for it. -/
theorem Sound.absent {index : Index} (sound : index.Sound) {id : FieldId} {field : FieldIndex}
    {doc : DocId} (present : index.fields[id]? = some field)
    (without : ∀ document tokens, index.documents[doc]? = some document →
      (id, tokens) ∉ document.tokens) : field.positions[doc]? = none := by
  cases known : field.positions[doc]? with
  | none => rfl
  | some groups =>
    obtain ⟨-, document, tokens, stored, member, -⟩ :=
      sound.grounded id field doc groups present known
    exact absurd member (without document tokens stored)

/-- Removing a document takes it out of the positions of every field. -/
theorem Sound.erase_eq_ok {index next : Index} {key : String} {removed : Bool}
    (sound : index.Sound) (success : index.erase key = .ok (next, removed)) :
    (index.ids[key]? = none ∧ next = index ∧ removed = false) ∨
      ∃ doc after, index.ids[key]? = some doc ∧ removed = true ∧
        next = { index with
          ids := index.ids.erase key, documents := index.documents.erase doc, fields := after } ∧
        Fieldwise (fun _ field left =>
          left.Agrees ∧ left.positions = field.positions.erase doc) index.fields after := by
  rcases Index.erase_eq_ok success with unchanged | ⟨doc, after, present, done, same, fields⟩
  · exact Or.inl unchanged
  refine Or.inr ⟨doc, after, present, done, same, fields.mono ?_⟩
  rintro id field left found (⟨rfl, without⟩ | changed)
  · have unknown := FieldIndex.remove_of_absent (sound.absent found without)
    exact (sound.agrees id left found).remove unknown
  · exact (sound.agrees id field found).remove changed

theorem Sound.erase {index next : Index} {key : String} {removed : Bool} (sound : index.Sound)
    (success : index.erase key = .ok (next, removed)) : next.Sound := by
  rcases sound.erase_eq_ok success with ⟨-, rfl, -⟩ | ⟨doc, after, -, -, rfl, fields⟩
  · exact sound
  refine ⟨?_, ?_, ?_, ?_, sound.nextId_lt⟩
  · intro id
    rw [fields.isSome_eq, sound.registered_iff]
  · intro id left present
    obtain ⟨field, -, agrees, -⟩ := fields.of_present id left present
    exact agrees
  · intro id left other groups present known
    obtain ⟨field, before, -, positions⟩ := fields.of_present id left present
    rw [positions] at known
    obtain ⟨differs, known⟩ := DocMap.getElem?_erase_eq_some known
    obtain ⟨indexed, document, tokens, stored, rest⟩ :=
      sound.grounded id field other groups before known
    refine ⟨indexed, document, tokens, ?_, rest⟩
    rw [DocMap.getElem?_erase_of_ne differs, stored]
  · intro other document present
    exact sound.issued other document (DocMap.getElem?_erase_eq_some present).2

theorem Complete.erase {index next : Index} {key : String} {removed : Bool} (sound : index.Sound)
    (complete : index.Complete) (success : index.erase key = .ok (next, removed)) :
    next.Complete := by
  rcases sound.erase_eq_ok success with ⟨-, rfl, -⟩ | ⟨doc, after, -, -, rfl, fields⟩
  · exact complete
  intro id left other document tokens present indexed stored member
  obtain ⟨field, before, -, positions⟩ := fields.of_present id left present
  obtain ⟨differs, stored⟩ := DocMap.getElem?_erase_eq_some stored
  rw [positions, DocMap.getElem?_erase_of_ne differs]
  exact complete id field other document tokens before indexed stored member

/-- Putting in a document, once the one under its key is gone, makes it known to its indexed
fields and to no others. -/
theorem Sound.insert_eq_ok {index next : Index} {document : Document} {doc : DocId}
    (sound : index.Sound) (success : index.insert document = .ok (next, doc)) :
    ∃ cleared removed after, index.erase document.key = .ok (cleared, removed) ∧ cleared.Sound ∧
      doc = cleared.nextId ∧ cleared.nextId + 1 < UInt64.size ∧
      next = { cleared with
        nextId := cleared.nextId + 1
        ids := cleared.ids.insert document.key cleared.nextId
        documents := cleared.documents.insert cleared.nextId document
        fields := after } ∧
      Fieldwise (fun id field grown => grown.Agrees ∧
          ((grown.positions = field.positions ∧ ∀ tokens, (id, tokens) ∈ document.tokens →
              cleared.schema.isIndexed id = false) ∨
            ∃ tokens, (id, tokens) ∈ document.tokens ∧ cleared.schema.isIndexed id = true ∧
              grown.positions = field.positions.insert cleared.nextId (groupByTerm tokens)))
        cleared.fields after := by
  obtain ⟨cleared, removed, after, erased, issued, fits, same, fields⟩ :=
    Index.insert_eq_ok success
  have clean : cleared.Sound := sound.erase erased
  refine ⟨cleared, removed, after, erased, clean, issued, fits, same, fields.mono ?_⟩
  rintro id field grown present (⟨rfl, unindexed⟩ | ⟨tokens, member, indexed, changed⟩)
  · exact ⟨clean.agrees id grown present, Or.inl ⟨rfl, unindexed⟩⟩
  · have fresh : field.positions[cleared.nextId]? = none :=
      clean.absent present fun other _ stored =>
        absurd (clean.issued cleared.nextId other stored) (Nat.lt_irrefl _)
    have agrees := (clean.agrees id field present).add fresh (tokenTotal_groupByTerm tokens) changed
    obtain ⟨-, -, -, rfl⟩ := FieldIndex.add_eq_ok_iff.mp changed
    exact ⟨agrees, Or.inr ⟨tokens, member, indexed, rfl⟩⟩

theorem Sound.insert {index next : Index} {document : Document} {doc : DocId}
    (sound : index.Sound) (success : index.insert document = .ok (next, doc)) : next.Sound := by
  obtain ⟨cleared, removed, after, -, clean, -, fits, rfl, fields⟩ := sound.insert_eq_ok success
  refine ⟨?_, ?_, ?_, ?_, fits⟩
  · intro id
    rw [fields.isSome_eq, clean.registered_iff]
  · intro id grown present
    obtain ⟨field, -, agrees, -⟩ := fields.of_present id grown present
    exact agrees
  · intro id grown other groups present known
    obtain ⟨field, before, -, kept | ⟨tokens, member, indexed, positions⟩⟩ :=
      fields.of_present id grown present
    · rw [kept.1] at known
      obtain ⟨indexed, stored, tokens, old, rest⟩ :=
        clean.grounded id field other groups before known
      refine ⟨indexed, stored, tokens, ?_, rest⟩
      rw [DocMap.getElem?_insert_of_ne (clean.issued other stored old).ne', old]
    · rw [positions] at known
      rcases DocMap.getElem?_insert_eq_some known with ⟨rfl, rfl⟩ | ⟨differs, known⟩
      · exact ⟨indexed, document, tokens, Std.ExtTreeMap.getElem?_insert_self, member, rfl⟩
      · obtain ⟨indexed, stored, others, old, rest⟩ :=
          clean.grounded id field other groups before known
        refine ⟨indexed, stored, others, ?_, rest⟩
        rw [DocMap.getElem?_insert_of_ne differs, old]
  · intro other stored present
    rcases DocMap.getElem?_insert_eq_some present with ⟨rfl, -⟩ | ⟨-, old⟩
    · exact Nat.lt_succ_self cleared.nextId
    · exact Nat.lt_succ_of_lt (clean.issued other stored old)

theorem Complete.insert {index next : Index} {document : Document} {doc : DocId}
    (sound : index.Sound) (complete : index.Complete)
    (success : index.insert document = .ok (next, doc)) : next.Complete := by
  obtain ⟨cleared, removed, after, erased, clean, -, -, rfl, fields⟩ := sound.insert_eq_ok success
  have known : cleared.Complete := complete.erase sound erased
  intro id grown other stored tokens present indexed stands member
  obtain ⟨field, before, -, change⟩ := fields.of_present id grown present
  rcases DocMap.getElem?_insert_eq_some stands with ⟨rfl, rfl⟩ | ⟨differs, old⟩
  · rcases change with ⟨-, unindexed⟩ | ⟨own, found, -, positions⟩
    · rw [show cleared.schema.isIndexed id = true from indexed] at unindexed
      exact absurd (unindexed tokens member) nofun
    · have same : own = tokens := by
        have := List.inj_on_of_nodup_map stored.tokens_nodup found member rfl
        exact congrArg Prod.snd this
      rw [positions, same, Std.ExtTreeMap.getElem?_insert_self]
  · have earlier := known id field other stored tokens before indexed old member
    rcases change with ⟨kept, -⟩ | ⟨own, -, -, positions⟩
    · rw [kept, earlier]
    · rw [positions, DocMap.getElem?_insert_of_ne differs, earlier]

/-- The fields know nothing of a field that is new, so no document may have it. -/
theorem Complete.addField {index next : Index} {field : Field} {id : FieldId}
    (complete : index.Complete) (success : index.addField field = .ok (next, id))
    (without : ∀ (doc : DocId) (document : Document) (tokens : List Token),
      index.documents[doc]? = some document → (id, tokens) ∉ document.tokens)
    (sound : index.Sound) : next.Complete := by
  intro other kept doc document tokens present indexed stored member
  rcases getElem?_addField success present with ⟨rfl, -⟩ | ⟨-, old⟩
  · obtain ⟨schema, -, -, rfl⟩ := addField_eq_ok success
    exact absurd member (without doc document tokens stored)
  · obtain ⟨schema, appended, -, rfl⟩ := addField_eq_ok success
    have registered : other.toNat < index.schema.fields.length := by
      rw [← sound.registered_iff, old, Option.isSome_some]
    rw [Schema.isIndexed_of_append appended registered] at indexed
    exact complete other kept doc document tokens old indexed stored member

end Relevance.Index
