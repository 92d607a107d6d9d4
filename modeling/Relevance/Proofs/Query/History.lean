import Relevance.Proofs.Index.Visiting
import Relevance.Proofs.Query.Alike

set_option autoImplicit false

namespace Relevance

/-- Two documents have the same tokens in every field, in whatever order the fields come. -/
def Document.SameTokens (document other : Document) : Prop :=
  document.tokens.Perm other.tokens

theorem Document.SameTokens.symm {document other : Document} (same : document.SameTokens other) :
    other.SameTokens document :=
  List.Perm.symm same

theorem Document.SameTokens.lookup_eq {document other : Document}
    (same : document.SameTokens other) (field : FieldId) :
    document.tokens.lookup field = other.tokens.lookup field :=
  lookup_eq_of_perm same other.tokens_nodup field

namespace Index

/-- Two indexes hold the same documents under the same keys, whatever numbers these have. -/
structure SameDocuments (left right : Index) : Prop where
  schema_eq : left.schema = right.schema
  documents_rel : ∀ key, Option.Rel Document.SameTokens
    (left.documentUnder? key) (right.documentUnder? key)

/-- A document of one index and one of the other have the same key. -/
def SameKey (left right : Index) (doc twin : DocId) : Prop :=
  ∃ key, left.idOf? key = some doc ∧ right.idOf? key = some twin

variable {index left right : Index} {doc twin : DocId} {key : String}

theorem Keyed.exists_document (keyed : index.Keyed) (known : index.idOf? key = some doc) :
    ∃ document, index.document? doc = some document ∧ document.key = key ∧
      index.documentUnder? key = some document := by
  obtain ⟨document, stored, named⟩ := keyed.document_of_id key doc known
  refine ⟨document, stored, named, ?_⟩
  rw [documentUnder?, known, Option.bind_some, document?, stored]

theorem Keyed.key_unique (keyed : index.Keyed) {other : String}
    (known : index.idOf? key = some doc) (same : index.idOf? other = some doc) : key = other := by
  obtain ⟨document, stored, rfl, -⟩ := keyed.exists_document known
  obtain ⟨found, there, rfl, -⟩ := keyed.exists_document same
  rw [stored] at there
  cases there
  rfl

/-- The texts of a field can be read key by key. -/
theorem Keyed.texts_perm (keyed : index.Keyed) (field : FieldId) : (index.texts field).Perm
    (index.ids.keys.map fun key => ((index.idOf? key).map (index.searchable · field)).getD []) := by
  refine (keyed.docIds_perm.map fun doc => index.searchable doc field).trans (.of_eq ?_)
  rw [← Std.ExtTreeMap.map_fst_toList_eq_keys, List.map_map, List.map_map]
  refine List.map_congr_left fun entry member => ?_
  have known : index.idOf? entry.1 = some entry.2 :=
    Std.ExtTreeMap.mem_toList_iff_getElem?_eq_some.mp member
  simp only [Function.comp_apply, known, Option.map_some, Option.getD_some]

namespace SameDocuments

theorem symm (same : left.SameDocuments right) : right.SameDocuments left := by
  refine ⟨same.schema_eq.symm, fun key => ?_⟩
  have related := same.documents_rel key
  generalize left.documentUnder? key = first at related ⊢
  generalize right.documentUnder? key = second at related ⊢
  cases related with
  | none => exact .none
  | some tokens => exact .some tokens.symm

/-- A key has a document in both indexes or in neither. -/
theorem isSome_eq (same : left.SameDocuments right) (keyed : left.Keyed) (named : right.Keyed)
    (key : String) : (left.ids[key]?).isSome = (right.ids[key]?).isSome := by
  rw [← keyed.isSome_documentUnder, ← named.isSome_documentUnder]
  have related := same.documents_rel key
  generalize left.documentUnder? key = first at related ⊢
  generalize right.documentUnder? key = second at related ⊢
  cases related <;> rfl

theorem exists_twin (same : left.SameDocuments right) (keyed : left.Keyed) (named : right.Keyed)
    (known : left.idOf? key = some doc) : ∃ twin, right.idOf? key = some twin := by
  rw [← Option.isSome_iff_exists, idOf?, ← same.isSome_eq keyed named, ← idOf?, known,
    Option.isSome_some]

/-- Documents with the same key have the same tokens. -/
theorem searchable_eq (same : left.SameDocuments right) (keyed : left.Keyed) (named : right.Keyed)
    (paired : SameKey left right doc twin) (field : FieldId) :
    left.searchable doc field = right.searchable twin field := by
  obtain ⟨key, known, here⟩ := paired
  obtain ⟨document, stored, -, reads⟩ := keyed.exists_document known
  obtain ⟨other, there, -, found⟩ := named.exists_document here
  have related := same.documents_rel key
  rw [reads, found, Option.rel_some_some] at related
  simp only [searchable, stored, there, same.schema_eq, related.lookup_eq]

theorem texts_perm (same : left.SameDocuments right) (keyed : left.Keyed) (named : right.Keyed)
    (field : FieldId) : (left.texts field).Perm (right.texts field) := by
  have keys : left.ids.keys.Perm right.ids.keys :=
    keys_perm_of_isSome_eq (same.isSome_eq keyed named)
  refine ((keyed.texts_perm field).trans ?_).trans (named.texts_perm field).symm
  refine ((keys.map _).trans (.of_eq (List.map_congr_left fun key member => ?_)))
  obtain ⟨twin, here⟩ := Option.isSome_iff_exists.mp
    (Std.ExtTreeMap.mem_iff_isSome_getElem?.mp (Std.ExtTreeMap.mem_keys.mp member))
  obtain ⟨doc, known⟩ := same.symm.exists_twin named keyed here
  have read : left.searchable doc field = right.searchable twin field :=
    same.searchable_eq keyed named ⟨key, known, here⟩ field
  have found : right.idOf? key = some twin := here
  simp only [known, found, Option.map_some, read]

theorem exists_pair (same : left.SameDocuments right) (faithful : left.Faithful)
    (named : right.Keyed) {field : FieldId} {term : Term}
    (listed : doc ∈ (left.docsWithTerm? field term).getD []) :
    ∃ twin, SameKey left right doc twin := by
  rw [faithful.mem_docsWithTerm_iff] at listed
  cases stored : left.document? doc with
  | none => simp [searchable, stored] at listed
  | some document =>
    have known : left.idOf? document.key = some doc :=
      faithful.keyed.id_of_document doc document stored
    obtain ⟨twin, here⟩ := same.exists_twin faithful.keyed named known
    exact ⟨twin, document.key, known, here⟩

/-- Indexes that hold the same documents read the same. -/
theorem alike (same : left.SameDocuments right) (faithful : left.Faithful)
    (truthful : right.Faithful) : left.Alike right (SameKey left right) := by
  have texts := same.texts_perm faithful.keyed truthful.keyed
  have reads : ∀ {doc twin}, SameKey left right doc twin → ∀ field,
      left.searchable doc field = right.searchable twin field :=
    same.searchable_eq faithful.keyed truthful.keyed
  refine {
    schema_eq := same.schema_eq
    termStatistics_eq := fun field term => ?_
    effectiveDocCount_eq := fun field => ?_
    unique := ⟨fun doc other twin paired same => ?_, fun doc twin other paired same => ?_⟩
    positions_eq := fun paired field term => ?_
    norm_eq := fun paired field => ?_
    listed_iff := fun paired field term => ?_
    exists_twin := same.exists_pair faithful truthful.keyed
    exists_doc := fun listed => ?_ }
  · rw [faithful.termStatistics_eq, truthful.termStatistics_eq, (texts field).countP_eq,
      ((texts field).map _).sum_eq]
  · rw [faithful.effectiveDocCount_eq, truthful.effectiveDocCount_eq, (texts field).countP_eq]
  · obtain ⟨key, known, here⟩ := paired
    obtain ⟨other, found, there⟩ := same
    rw [truthful.keyed.key_unique here there, found] at known
    exact (Option.some.inj known).symm
  · obtain ⟨key, known, here⟩ := paired
    obtain ⟨other, found, there⟩ := same
    rw [faithful.keyed.key_unique known found, there] at here
    exact (Option.some.inj here).symm
  · rw [faithful.positions_eq, truthful.positions_eq, reads paired]
  · rw [faithful.norms_eq, truthful.norms_eq, reads paired, same.schema_eq]
  · rw [faithful.mem_docsWithTerm_iff, truthful.mem_docsWithTerm_iff, reads paired]
  · obtain ⟨doc, key, here, known⟩ := same.symm.exists_pair truthful faithful.keyed listed
    exact ⟨doc, key, known, here⟩

end SameDocuments

def registering (fields : List Field) : List (Operation × Visit) :=
  fields.map fun field => (.addField field, .inOrder)

theorem map_fst_registering (fields : List Field) (changes : List (Operation × Visit)) :
    (registering fields ++ changes).map Prod.fst =
      fields.map .addField ++ changes.map Prod.fst := by
  rw [List.map_append, registering, List.map_map]
  rfl

def DocumentsOnly (changes : List (Operation × Visit)) : Prop :=
  ∀ field, .addField field ∉ changes.map Prod.fst

/-- The fields of a history come first. -/
theorem fieldsFirst_registering (similarity : Similarity) (fields : List Field)
    {changes : List (Operation × Visit)} (settled : DocumentsOnly changes) :
    FieldsFirst similarity ((registering fields ++ changes).map Prod.fst) := by
  rw [map_fst_registering]
  exact fieldsFirst_of_leading similarity fields settled

/-- Whatever becomes of the documents, the schema is that of the fields registered first. -/
theorem schema_of_registering {similarity : Similarity} {fields : List Field}
    {changes : List (Operation × Visit)} (settled : DocumentsOnly changes) {index : Index}
    (reached : runVisiting similarity (registering fields ++ changes) = .ok index) :
    index.schema = (fields.map Operation.addField).foldl Schema.after .empty := by
  obtain ⟨plain, ordered, shuffles⟩ := exists_run_of_visiting reached
  rw [shuffles.schema_eq, schema_of_run ordered, map_fst_registering, List.foldl_append,
    foldl_after_of_settled settled]

theorem Shuffles.sameWeights {index other : Index} (shuffles : index.Shuffles other)
    (sound : other.Sound) : index.SameWeights other where
  schema_eq := shuffles.schema_eq
  termStatistics_eq := shuffles.termStatistics_eq sound
  effectiveDocCount_eq field := by rw [shuffles.fieldStatistics_eq]

/-- Whatever the orders of visiting, binding a query fails only if the numbers given out leave no
room for the counts. -/
theorem plan_eq_error_of_visiting {weighed : Similarity} {history : List (Operation × Visit)}
    {index : Index} (reached : runVisiting weighed history = .ok index) {similarity : Similarity}
    {query : Query} {reason : Fault} (failed : index.plan similarity query = .error reason) :
    reason = .additionOverflow ∧ UInt64.size ≤ index.maxDoc + 2 := by
  obtain ⟨plain, ordered, shuffles⟩ := exists_run_of_visiting reached
  have sound : plain.Sound := sound_of_run ordered
  have weights : index.SameWeights plain := shuffles.sameWeights sound
  rw [weights.plan_eq] at failed
  rcases sound.plan_cases similarity query with ⟨plan, planned, -⟩ | ⟨overflown, full⟩
  · rw [failed] at planned
    cases planned
  · rw [failed] at overflown
    cases overflown
    exact ⟨rfl, by rw [maxDoc, shuffles.nextId_eq]; exact full⟩

/-- Two indexes with the same fields that hold the same documents in the end give every document the
same score, find equally many, and explain the scores by the same trees, but for the numbers of the
documents. Neither the documents that came and went nor the orders of visiting show. Both fail
together, and only if the numbers given out leave no room for the counts. -/
theorem scores_independent_of_history {weighed other : Similarity} {fields : List Field}
    {first second : List (Operation × Visit)} (settled : DocumentsOnly first)
    (unchanged : DocumentsOnly second) {left right : Index}
    (reached : runVisiting weighed (registering fields ++ first) = .ok left)
    (arrived : runVisiting other (registering fields ++ second) = .ok right)
    (same : ∀ key, Option.Rel Document.SameTokens
      (left.documentUnder? key) (right.documentUnder? key))
    (similarity : Similarity) (query : Query) :
    (∃ total, left.search similarity query .count 0 = .ok total ∧
      right.search similarity query .count 0 = .ok total ∧
      ∀ key document, left.documentUnder? key = some document → ∃ doc twin found why,
        left.idOf? key = some doc ∧ right.idOf? key = some twin ∧
        left.score similarity query doc = .ok found ∧
        right.score similarity query twin = .ok found ∧
        left.explain similarity query doc = .ok why ∧
        right.explain similarity query twin = .ok (why.atDoc twin)) ∨
    UInt64.size ≤ left.maxDoc + 2 ∧ UInt64.size ≤ right.maxDoc + 2 ∧
      left.plan similarity query = .error .additionOverflow ∧
      right.plan similarity query = .error .additionOverflow := by
  have documents : left.SameDocuments right :=
    ⟨(schema_of_registering settled reached).trans (schema_of_registering unchanged arrived).symm,
      same⟩
  have faithful : left.Faithful :=
    (faithful_of_runVisiting (fieldsFirst_registering weighed fields settled) reached).1
  have truthful : right.Faithful :=
    (faithful_of_runVisiting (fieldsFirst_registering other fields unchanged) arrived).1
  have alike : left.Alike right (SameKey left right) := documents.alike faithful truthful
  have bound : left.plan similarity query = right.plan similarity query :=
    alike.plan_eq similarity query
  cases planned : left.plan similarity query with
  | error reason =>
    obtain ⟨rfl, full⟩ := plan_eq_error_of_visiting reached planned
    rw [planned] at bound
    exact Or.inr ⟨full, (plan_eq_error_of_visiting arrived bound.symm).2, rfl, bound.symm⟩
  | ok plan =>
    have placed := (binds_of_plan planned).placed
    obtain ⟨hits, found, -⟩ := Plan.exists_hits placed
    have searched := search_eq_ok planned found Collector.count 0
    refine Or.inl ⟨_, searched, (alike.count_eq query).symm.trans searched, ?_⟩
    intro key document reads
    have some : (left.ids[key]?).isSome := by
      rw [← faithful.keyed.isSome_documentUnder, reads, Option.isSome_some]
    obtain ⟨doc, known⟩ := Option.isSome_iff_exists.mp some
    obtain ⟨twin, here⟩ := documents.exists_twin faithful.keyed truthful.keyed known
    have paired : SameKey left right doc twin := ⟨key, known, here⟩
    obtain ⟨why, explained, scored⟩ :=
      Plan.exists_explanation placed (coherent_of_plan planned) doc
    have score : left.score similarity query doc = .ok why.score? := by
      rw [Index.score, planned, Fault.ok_bind, scored]
    have explanation : left.explain similarity query doc = .ok why := by
      rw [Index.explain, planned, Fault.ok_bind, explained]
    refine ⟨doc, twin, why.score?, why, known, here, score, ?_, explanation, ?_⟩
    · rw [← alike.score_eq paired, score]
    · rw [alike.explain_eq paired, explanation, Fault.map_ok]

def titleField : Field := ⟨"title", .text, ⟨true, true, true⟩⟩

def redHen : Document :=
  (Document.ofKey "b").withTokens 0 [⟨.ofString "red", 0⟩, ⟨.ofString "hen", 4⟩]

/-- A document that replaces another one, among documents that come and go. -/
def eventful : List (Operation × Visit) := [
  (.insert ((Document.ofKey "a").withTokens 0 [⟨.ofString "red", 0⟩]), .inOrder),
  (.insert ((Document.ofKey "b").withTokens 0 [⟨.ofString "fox", 0⟩]), .inOrder),
  (.insert redHen, .inOrder),
  (.erase "a", .inOrder)]

/-- The same document put in right away, its terms gone through from the end. -/
def direct : List (Operation × Visit) :=
  [(.insert redHen, ⟨fun _ tokens => (groupByTerm tokens).reverse, fun _ _ => List.reverse_perm _⟩)]

theorem exists_runVisiting {history : List (Operation × Visit)} {count : Nat}
    (counted : (runVisiting .smoothed history).toOption.map Index.maxDoc = some count) :
    ∃ index, runVisiting .smoothed history = .ok index ∧ index.maxDoc = count := by
  cases reached : runVisiting .smoothed history with
  | error reason =>
    rw [reached] at counted
    cases counted
  | ok index =>
    rw [reached] at counted
    exact ⟨index, rfl, Option.some.inj counted⟩

theorem bindings_eventful (key : String) :
    (bindings ((registering [titleField] ++ eventful).map Prod.fst))[key]? =
      (bindings ((registering [titleField] ++ direct).map Prod.fst))[key]? := by
  change ((((Std.ExtTreeMap.insert ∅ "a" _).insert "b" _).insert "b" redHen).erase "a")[key]? =
    (Std.ExtTreeMap.insert ∅ "b" redHen)[key]?
  simp only [Std.ExtTreeMap.getElem?_erase, Std.ExtTreeMap.getElem?_insert,
    Std.LawfulEqCmp.compare_eq_iff_eq, Std.ExtTreeMap.getElem?_empty]
  by_cases erased : "a" = key
  · rw [if_pos erased, if_neg (erased ▸ by decide)]
  · by_cases kept : "b" = key <;> simp [erased, kept]

theorem eventful_scores_as_direct : ∃ left right doc twin found,
    runVisiting .smoothed (registering [titleField] ++ eventful) = .ok left ∧
    runVisiting .smoothed (registering [titleField] ++ direct) = .ok right ∧
    left.idOf? "b" = some doc ∧ right.idOf? "b" = some twin ∧
    left.score .classic (.ofTerm "title" (.ofString "hen")) doc = .ok found ∧
    right.score .classic (.ofTerm "title" (.ofString "hen")) twin = .ok found := by
  have settled : DocumentsOnly eventful := by simp [DocumentsOnly, eventful]
  have unchanged : DocumentsOnly direct := by simp [DocumentsOnly, direct]
  obtain ⟨left, reached, three⟩ : ∃ left,
      runVisiting .smoothed (registering [titleField] ++ eventful) = .ok left ∧ left.maxDoc = 3 :=
    exists_runVisiting (by decide +kernel)
  obtain ⟨right, arrived, -⟩ : ∃ right,
      runVisiting .smoothed (registering [titleField] ++ direct) = .ok right ∧ right.maxDoc = 1 :=
    exists_runVisiting (by decide +kernel)
  have reads := (faithful_of_runVisiting (fieldsFirst_registering _ _ settled) reached).2
  have found := (faithful_of_runVisiting (fieldsFirst_registering _ _ unchanged) arrived).2
  have same : ∀ key, Option.Rel Document.SameTokens
      (left.documentUnder? key) (right.documentUnder? key) := by
    intro key
    rw [reads, bindings_eventful, ← found]
    cases right.documentUnder? key with
    | none => exact .none
    | some document => exact .some (.refl document.tokens)
  have there : left.documentUnder? "b" = some redHen := by
    rw [reads, bindings_eventful]
    exact Std.ExtTreeMap.getElem?_insert_self
  rcases scores_independent_of_history settled unchanged reached arrived same .classic
    (.ofTerm "title" (.ofString "hen")) with ⟨total, -, -, each⟩ | ⟨full, -⟩
  · obtain ⟨doc, twin, found, why, known, here, score, twinned, -⟩ := each "b" redHen there
    exact ⟨left, right, doc, twin, found, reached, arrived, known, here, score, twinned⟩
  · rw [three] at full
    exact absurd full (by decide)

end Index

end Relevance
