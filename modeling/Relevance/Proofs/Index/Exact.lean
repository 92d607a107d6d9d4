import Relevance.Proofs.Index.Run

set_option autoImplicit false

namespace Relevance

theorem Document.mem_tokens_iff {document : Document} {field : FieldId} {tokens : List Token} :
    (field, tokens) ∈ document.tokens ↔ document.tokens.lookup field = some tokens :=
  mem_iff_lookup_eq_some document.tokens_nodup

namespace Index

/-- The tokens of a field of a document that are looked up: none for a document that is not there,
and none if the field is not indexed. -/
def searchable (index : Index) (doc : DocId) (field : FieldId) : List Token :=
  match index.document? doc with
  | some document =>
    if index.schema.isIndexed field then (document.tokens.lookup field).getD [] else []
  | none => []

variable {index : Index}

/-- A term has positions in a document only if the document is there with that term. -/
theorem Sound.known_of_positions (sound : index.Sound) {doc : DocId} {field : FieldId} {term : Term}
    (known : index.positions doc field term ≠ []) :
    ∃ (document : Document) (tokens : List Token), index.documents[doc]? = some document ∧
      tokens.length < UInt64.size ∧
      index.positions doc field term = positionsOf term tokens := by
  unfold positions FieldIndex.positionsIn at known ⊢
  cases present : index.fields[field]? with
  | none => simp [present] at known
  | some kept =>
    cases entry : kept.positions[doc]? with
    | none => simp [present, entry] at known
    | some groups =>
      obtain ⟨-, document, tokens, stored, -, rfl⟩ :=
        sound.grounded field kept doc groups present entry
      have agrees := sound.agrees field kept present
      have counted := DocMap.le_total entry FieldIndex.tokenTotal
      rw [tokenTotal_groupByTerm, ← agrees.tokenCount_eq] at counted
      refine ⟨document, tokens, stored, Nat.lt_of_le_of_lt counted agrees.tokenCount_lt, ?_⟩
      simp only [Option.map_some, Option.getD_some, entry, Option.bind_some,
        getD_lookup_groupByTerm]

theorem Sound.length_positions_lt (sound : index.Sound) (doc : DocId) (field : FieldId)
    (term : Term) : (index.positions doc field term).length < UInt64.size := by
  by_cases known : index.positions doc field term = []
  · rw [known]
    decide
  · obtain ⟨document, tokens, -, fits, same⟩ := sound.known_of_positions known
    rw [same, length_positionsOf]
    refine Nat.lt_of_le_of_lt List.count_le_length ?_
    rwa [List.length_map]

/-- The postings list the documents in which the term has positions. -/
theorem Sound.mem_docsWithTerm_iff (sound : index.Sound) {doc : DocId} {field : FieldId}
    {term : Term} :
    doc ∈ (index.docsWithTerm? field term).getD [] ↔ index.positions doc field term ≠ [] := by
  unfold docsWithTerm? positions FieldIndex.positionsIn
  cases present : index.fields[field]? with
  | none => simp
  | some kept =>
    have posted : doc ∈ ((kept.docs? term).map (·.toList)).getD [] ↔
        FieldIndex.Posts kept.postings term doc := by
      unfold FieldIndex.docs? FieldIndex.Posts
      cases kept.postings[term]? <;> simp
    rw [Option.bind_some, posted, (sound.agrees field kept present).posts_iff, Option.map_some,
      Option.getD_some]
    cases entry : kept.positions[doc]? with
    | none => simp
    | some groups =>
      obtain ⟨-, document, tokens, -, -, rfl⟩ :=
        sound.grounded field kept doc groups present entry
      simp only [Option.some.injEq, exists_eq_left', mem_map_fst_groupByTerm, Option.bind_some,
        getD_lookup_groupByTerm, ne_eq, positionsOf_eq_nil_iff, not_not]

/-- No term is kept without documents, and the documents of a term are in order. -/
theorem Sound.docsWithTerm_eq_some (sound : index.Sound) {field : FieldId} {term : Term}
    {docs : List DocId} (found : index.docsWithTerm? field term = some docs) :
    docs ≠ [] ∧ docs.Pairwise (· < ·) := by
  unfold docsWithTerm? at found
  obtain ⟨set, posted, rfl⟩ := Option.map_eq_some_iff.mp found
  obtain ⟨kept, present, looked⟩ := Option.bind_eq_some_iff.mp posted
  constructor
  · intro none
    exact (sound.agrees field kept present).occupied term set looked
      (Std.ExtTreeSet.toList_eq_nil_iff.mp none)
  · exact Std.ExtTreeSet.ordered_toList.imp fun less => Nat.compare_eq_lt.mp less

/-- If nothing is missing, a field knows exactly the tokens that are looked up. -/
theorem Sound.groups_eq (sound : index.Sound) (complete : index.Complete) (doc : DocId)
    {field : FieldId} {kept : FieldIndex} (present : index.fields[field]? = some kept) :
    kept.positions[doc]?.getD [] = groupByTerm (index.searchable doc field) := by
  unfold searchable document?
  cases entry : kept.positions[doc]? with
  | some groups =>
    obtain ⟨indexed, document, tokens, stored, member, rfl⟩ :=
      sound.grounded field kept doc groups present entry
    rw [Document.mem_tokens_iff] at member
    simp only [stored, indexed, member, ↓reduceIte, Option.getD_some]
  | none =>
    cases stored : index.documents[doc]? with
    | none => rfl
    | some document =>
      cases indexed : index.schema.isIndexed field with
      | false => rfl
      | true =>
        cases member : document.tokens.lookup field with
        | none => simp only [member]; rfl
        | some tokens =>
          rw [← Document.mem_tokens_iff] at member
          have known := complete field kept doc document tokens present indexed stored member
          rw [entry] at known
          cases known

/-- A field that was never registered has no tokens. -/
theorem Sound.searchable_of_unregistered (sound : index.Sound) {field : FieldId}
    (absent : index.fields[field]? = none) (doc : DocId) : index.searchable doc field = [] := by
  have unknown : index.schema.isIndexed field = false := by
    by_contra indexed
    have inside := Schema.lt_of_isIndexed ((Bool.not_eq_false _).mp indexed)
    rw [← sound.registered_iff, absent] at inside
    cases inside
  unfold searchable
  rw [unknown]
  cases index.document? doc <;> rfl

/-- If nothing is missing, the positions of a term are those of its tokens. -/
theorem Sound.positions_eq (sound : index.Sound) (complete : index.Complete) (doc : DocId)
    (field : FieldId) (term : Term) :
    index.positions doc field term = positionsOf term (index.searchable doc field) := by
  unfold positions
  cases present : index.fields[field]? with
  | some kept =>
    rw [Option.map_some, Option.getD_some, ← getD_lookup_groupByTerm,
      ← sound.groups_eq complete doc present, FieldIndex.positionsIn]
    cases kept.positions[doc]? <;> rfl
  | none =>
    rw [sound.searchable_of_unregistered present, (positionsOf_eq_nil_iff term []).mpr List.not_mem_nil]
    rfl

/-- After a run the postings of a term are exactly the documents with the term in a field that is
looked up, and there are none if no document has it; its positions in a document, whether that is
there or not, are those of its tokens in ascending order. -/
theorem lookups_exact_of_run {similarity : Similarity} {operations : List Operation}
    (first : FieldsFirst similarity operations) (reached : run similarity operations = .ok index)
    (field : FieldId) (term : Term) :
    (match index.docsWithTerm? field term with
      | some docs => docs ≠ [] ∧ docs.Pairwise (· < ·) ∧
          ∀ doc, doc ∈ docs ↔ term ∈ (index.searchable doc field).map Token.term
      | none => ∀ doc, term ∉ (index.searchable doc field).map Token.term) ∧
    ∀ doc, (index.positions doc field term).Pairwise (· ≤ ·) ∧
      (index.positions doc field term).Perm
        (((index.searchable doc field).filter (·.term = term)).map Token.position) := by
  have sound : index.Sound := sound_of_run reached
  have complete : index.Complete := complete_of_run first reached
  have posted : ∀ doc, doc ∈ (index.docsWithTerm? field term).getD [] ↔
      term ∈ (index.searchable doc field).map Token.term := by
    intro doc
    rw [sound.mem_docsWithTerm_iff, sound.positions_eq complete, ne_eq, positionsOf_eq_nil_iff,
      not_not]
  constructor
  · cases found : index.docsWithTerm? field term with
    | some docs =>
      obtain ⟨occupied, ascending⟩ := sound.docsWithTerm_eq_some found
      refine ⟨occupied, ascending, fun doc => ?_⟩
      rw [← posted, found, Option.getD_some]
    | none =>
      intro doc
      rw [← posted, found, Option.getD_none]
      exact List.not_mem_nil
  · intro doc
    rw [sound.positions_eq complete]
    exact ⟨sortPositions_ascending _, sortPositions_perm _⟩

/-- A field, two documents, one of them replaced, and one removed. -/
def shelf : List Operation := [
  .addField ⟨"title", .text, ⟨true, true, false⟩⟩,
  .insert ((Document.ofKey "a").withTokens 0 [⟨.ofString "red", 0⟩, ⟨.ofString "fox", 1⟩]),
  .insert ((Document.ofKey "b").withTokens 0 [⟨.ofString "fox", 0⟩]),
  .insert ((Document.ofKey "b").withTokens 0 [⟨.ofString "red", 0⟩, ⟨.ofString "hen", 4⟩]),
  .erase "a"]

theorem fieldsFirst_shelf (similarity : Similarity) : FieldsFirst similarity shelf :=
  fieldsFirst_of_leading similarity [_] (by simp)

theorem exists_run_shelf : ∃ index, run .smoothed shelf = .ok index ∧ index.maxDoc = 3 ∧
    index.docsWithTerm? 0 (.ofString "red") = some [2] := by
  have answer : (run .smoothed shelf).toOption.map
      (fun index => (index.maxDoc, index.docsWithTerm? 0 (.ofString "red"))) =
        some (3, some [2]) := by decide +kernel
  cases reached : run .smoothed shelf with
  | error reason =>
    rw [reached] at answer
    cases answer
  | ok index =>
    rw [reached] at answer
    have both := Option.some.inj answer
    exact ⟨index, rfl, congrArg Prod.fst both, congrArg Prod.snd both⟩

theorem shelf_lookups_exact : ∃ index, run .smoothed shelf = .ok index ∧
    index.docsWithTerm? 0 (.ofString "red") = some [2] ∧
    ∀ doc, doc ∈ [2] ↔ .ofString "red" ∈ (index.searchable doc 0).map Token.term := by
  obtain ⟨index, reached, -, posted⟩ := exists_run_shelf
  have lookups := (lookups_exact_of_run (fieldsFirst_shelf .smoothed) reached 0
    (.ofString "red")).1
  rw [posted] at lookups
  exact ⟨index, reached, posted, lookups.2.2⟩

end Index

end Relevance
