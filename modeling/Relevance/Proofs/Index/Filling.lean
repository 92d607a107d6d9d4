import Relevance.Proofs.Index.Keyed
import Relevance.Proofs.Index.Statistics

set_option autoImplicit false

namespace Relevance

def Operation.inserted? : Operation → Option Document
  | .insert document => some document
  | _ => none

namespace Index

def inserted (operations : List Operation) : List Document :=
  operations.filterMap Operation.inserted?

/-- An index has these documents, each under its place in the list, and no others. -/
structure Numbers (index : Index) (documents : List Document) : Prop where
  maxDoc_eq : index.maxDoc = documents.length
  document_eq : ∀ id, index.document? id = documents[id]?

variable {index next : Index} {documents : List Document}

theorem numbers_empty (similarity : Similarity) : (empty similarity).Numbers [] where
  maxDoc_eq := rfl
  document_eq id := by simp [document?, empty]

theorem Numbers.addField {field : Field} {id : FieldId} (numbers : index.Numbers documents)
    (success : index.addField field = .ok (next, id)) : next.Numbers documents := by
  obtain ⟨schema, -, -, rfl⟩ := addField_eq_ok success
  exact ⟨numbers.maxDoc_eq, numbers.document_eq⟩

/-- A document with a new key comes after all others. -/
theorem Numbers.insert {document : Document} {doc : DocId} (numbers : index.Numbers documents)
    (keyed : index.Keyed) (fresh : document.key ∉ documents.map Document.key)
    (success : index.insert document = .ok (next, doc)) :
    next.Numbers (documents ++ [document]) := by
  have unused : index.ids[document.key]? = none := by
    refine Option.eq_none_iff_forall_ne_some.mpr fun id known => fresh ?_
    obtain ⟨other, stored, same⟩ := keyed.document_of_id document.key id known
    have there : documents[id]? = some other := (numbers.document_eq id).symm.trans stored
    exact same ▸ List.mem_map_of_mem (List.mem_of_getElem? there)
  obtain ⟨cleared, removed, after, erased, -, -, rfl, -⟩ := insert_eq_ok success
  rcases erase_eq_ok erased with ⟨-, rfl, -⟩ | ⟨id, _, known, -⟩
  · have last : cleared.nextId = documents.length := numbers.maxDoc_eq
    refine ⟨?_, fun id => ?_⟩
    · rw [List.length_append, List.length_singleton, ← last]
      rfl
    · have before := numbers.document_eq id
      simp only [document?, Std.ExtTreeMap.getElem?_insert, Std.LawfulEqCmp.compare_eq_iff_eq,
        last] at before ⊢
      rw [before]
      rcases Nat.lt_trichotomy id documents.length with old | rfl | beyond
      · rw [if_neg old.ne', List.getElem?_append_left old]
      · rw [if_pos rfl, List.getElem?_concat_length]
      · rw [if_neg beyond.ne, List.getElem?_eq_none beyond.le, List.getElem?_eq_none]
        rw [List.length_append, List.length_singleton]
        exact beyond
  · rw [unused] at known
    cases known

/-- A run without removals, and with all keys distinct, numbers what it puts in. -/
theorem numbers_of_run {similarity : Similarity} {operations : List Operation}
    (reached : run similarity operations = .ok index) (kept : ∀ key, .erase key ∉ operations)
    (distinct : ((inserted operations).map Document.key).Nodup) :
    index.Numbers (inserted operations) := by
  refine run_induction (motive := fun operations index => (∀ key, .erase key ∉ operations) →
    ((inserted operations).map Document.key).Nodup → index.Numbers (inserted operations))
    (fun _ _ => numbers_empty similarity) ?_ reached kept distinct
  intro operations index operation next reached earlier performed kept distinct
  rw [inserted, List.filterMap_append, ← inserted] at distinct ⊢
  rw [List.map_append] at distinct
  have numbers := earlier (fun key member => kept key (List.mem_append_left _ member))
    distinct.of_append_left
  cases operation with
  | addField field =>
    rw [show [Operation.addField field].filterMap Operation.inserted? = [] from rfl,
      List.append_nil]
    rcases perform_addField performed with ⟨id, registered⟩ | rfl
    · exact numbers.addField registered
    · exact numbers
  | insert document =>
    obtain ⟨⟨_, doc⟩, success, rfl⟩ := Fault.map_eq_ok_iff.mp performed
    refine numbers.insert (keyed_of_run reached).1 (fun member => ?_) success
    exact List.disjoint_of_nodup_append distinct member (List.mem_singleton_self document.key)
  | erase key => exact absurd (List.mem_append_right _ (List.mem_singleton_self _)) (kept key)

theorem Numbers.docCount_eq (numbers : index.Numbers documents) :
    index.docCount = documents.length := by
  have same : index.docIds.Perm (List.range documents.length) := by
    refine (List.perm_ext_iff_of_nodup index.nodup_docIds List.nodup_range).mpr fun id => ?_
    rw [mem_docIds_iff, numbers.document_eq, List.mem_range]
    constructor
    · rintro ⟨document, there⟩
      exact (List.getElem?_eq_some_iff.mp there).1
    · intro inside
      exact ⟨_, List.getElem?_eq_getElem inside⟩
  rw [docCount, ← Std.ExtTreeMap.length_keys, ← docIds, same.length_eq, List.length_range]

/-- The number of a key is the place of the document with that key. -/
theorem Numbers.idOf_eq (numbers : index.Numbers documents) (keyed : index.Keyed) {id : DocId}
    {document : Document} (there : documents[id]? = some document) :
    index.idOf? document.key = some id :=
  keyed.idOf_iff.mpr ⟨document, (numbers.document_eq id).trans there, rfl⟩

end Index

end Relevance
