import Relevance.Proofs.Index.Exact

set_option autoImplicit false

namespace Relevance

namespace Schema

variable {schema next : Schema} {name : String} {id : FieldId}

theorem lt_of_find? (named : schema.find? name = some id) : id.toNat < schema.fields.length := by
  obtain ⟨place, found, rfl⟩ := Option.map_eq_some_iff.mp named
  obtain ⟨inside, -⟩ := List.findIdx?_eq_some_iff_getElem.mp found
  rw [UInt32.toNat_ofNat']
  exact Nat.lt_of_le_of_lt (Nat.mod_le _ _) inside

/-- A field keeps its number. -/
theorem find?_of_append {field : Field} (appended : next.fields = schema.fields ++ [field])
    (named : schema.find? name = some id) : next.find? name = some id := by
  obtain ⟨place, found, rfl⟩ := Option.map_eq_some_iff.mp named
  rw [find?, appended, List.findIdx?_append, found, Option.some_or, Option.map_some]

end Schema

namespace Index

variable {index next : Index} {doc : DocId} {name : String} {id : FieldId} {tokens : List Token}

/-- A field has a name, and as long as a document is there, it knows certain tokens of it. -/
structure Knows (index : Index) (doc : DocId) (name : String) (id : FieldId) (tokens : List Token) :
    Prop where
  named : index.schema.find? name = some id
  issued : doc < index.nextId
  known : ∀ field, index.fields[id]? = some field → (index.document? doc).isSome →
    field.positions[doc]? = some (groupByTerm tokens)

theorem Knows.registered (knows : index.Knows doc name id tokens) (sound : index.Sound) :
    (index.fields[id]?).isSome :=
  (sound.registered_iff id).mpr (Schema.lt_of_find? knows.named)

/-- The positions of a term are those of its tokens. -/
theorem Knows.positions_eq (knows : index.Knows doc name id tokens) (sound : index.Sound)
    (there : (index.document? doc).isSome) (term : Term) :
    index.positions doc id term = positionsOf term tokens := by
  obtain ⟨field, present⟩ := Option.isSome_iff_exists.mp (knows.registered sound)
  rw [positions, present, Option.map_some, Option.getD_some, FieldIndex.positionsIn,
    knows.known field present there, Option.bind_some, getD_lookup_groupByTerm]

theorem Knows.addField {field : Field} {new : FieldId} (knows : index.Knows doc name id tokens)
    (sound : index.Sound) (success : index.addField field = .ok (next, new)) :
    next.Knows doc name id tokens := by
  obtain ⟨schema, appended, -, rfl⟩ := addField_eq_ok success
  refine ⟨Schema.find?_of_append appended knows.named, knows.issued, ?_⟩
  intro kept present there
  rcases getElem?_addField success present with ⟨-, before, old | ⟨absent, -⟩, rfl⟩ | ⟨-, old⟩
  · rw [FieldIndex.withTable_positions]
    exact knows.known before old there
  · have registered := knows.registered sound
    rw [absent] at registered
    cases registered
  · exact knows.known kept old there

theorem Knows.erase {key : String} {removed : Bool} (knows : index.Knows doc name id tokens)
    (sound : index.Sound) (success : index.erase key = .ok (next, removed)) :
    next.Knows doc name id tokens := by
  rcases sound.erase_eq_ok success with ⟨-, rfl, -⟩ | ⟨gone, after, -, -, rfl, fields⟩
  · exact knows
  refine ⟨knows.named, knows.issued, ?_⟩
  intro left present there
  obtain ⟨field, before, -, positions⟩ := fields.of_present id left present
  obtain ⟨document, stored⟩ := Option.isSome_iff_exists.mp there
  obtain ⟨differs, stored⟩ := DocMap.getElem?_erase_eq_some stored
  rw [positions, DocMap.getElem?_erase_of_ne differs]
  exact knows.known field before (Option.isSome_iff_exists.mpr ⟨document, stored⟩)

/-- A document that is put in has a new number, so nothing changes for those that were known. -/
theorem Knows.insert {document : Document} {new : DocId} (knows : index.Knows doc name id tokens)
    (sound : index.Sound) (success : index.insert document = .ok (next, new)) :
    next.Knows doc name id tokens := by
  obtain ⟨cleared, removed, after, erased, -, -, -, rfl, fields⟩ := sound.insert_eq_ok success
  have cleared := knows.erase sound erased
  have other := (Nat.ne_of_lt cleared.issued).symm
  refine ⟨cleared.named, Nat.lt_succ_of_lt cleared.issued, ?_⟩
  intro grown present there
  obtain ⟨field, before, -, change⟩ := fields.of_present id grown present
  rw [document?, DocMap.getElem?_insert_of_ne other] at there
  have earlier := cleared.known field before there
  rcases change with ⟨kept, -⟩ | ⟨own, -, -, positions⟩
  · rw [kept, earlier]
  · rw [positions, DocMap.getElem?_insert_of_ne other, earlier]

theorem Knows.perform {operation : Operation} (knows : index.Knows doc name id tokens)
    (sound : index.Sound) (success : index.perform operation = .ok next) :
    next.Knows doc name id tokens := by
  cases operation with
  | addField field =>
    rcases perform_addField success with ⟨new, registered⟩ | rfl
    · exact knows.addField sound registered
    · exact knows
  | insert document =>
    obtain ⟨⟨_, new⟩, inserted, rfl⟩ := Fault.map_eq_ok_iff.mp success
    exact knows.insert sound inserted
  | erase key =>
    obtain ⟨⟨_, removed⟩, erased, rfl⟩ := Fault.map_eq_ok_iff.mp success
    exact knows.erase sound erased

/-- What is known once stays known. -/
theorem Knows.steps {operations : List Operation} (knows : index.Knows doc name id tokens)
    (sound : index.Sound) (reached : operations.foldlM Index.perform index = .ok next) :
    next.Sound ∧ next.Knows doc name id tokens := by
  induction operations generalizing index with
  | nil =>
    cases reached
    exact ⟨sound, knows⟩
  | cons operation rest ih =>
    rw [List.foldlM_cons, Fault.bind_eq_ok_iff] at reached
    obtain ⟨middle, performed, later⟩ := reached
    exact ih (knows.perform sound performed) (sound.perform performed) later

/-- A document that is put in is known to its indexed fields. -/
theorem Sound.knows_inserted {document : Document} (sound : index.Sound)
    (named : index.schema.find? name = some id) (indexed : index.schema.isIndexed id = true)
    (has : document.tokens.lookup id = some tokens)
    (success : index.insert document = .ok (next, doc)) : next.Knows doc name id tokens := by
  obtain ⟨cleared, removed, after, erased, -, rfl, -, rfl, fields⟩ := sound.insert_eq_ok success
  have schema : cleared.schema = index.schema := schema_erase erased
  have member : (id, tokens) ∈ document.tokens := Document.mem_tokens_iff.mpr has
  rw [← schema] at named indexed
  refine ⟨named, Nat.lt_succ_self _, ?_⟩
  intro grown present _
  obtain ⟨field, -, -, ⟨-, unindexed⟩ | ⟨own, found, -, positions⟩⟩ :=
    fields.of_present id grown present
  · rw [unindexed tokens member] at indexed
    cases indexed
  · rw [Document.mem_tokens_iff, has] at found
    cases found
    rw [positions, Std.ExtTreeMap.getElem?_insert_self]

end Index

end Relevance
