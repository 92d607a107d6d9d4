import Relevance.Proofs.Index.Run

set_option autoImplicit false

namespace Relevance

namespace FieldIndex

theorem add_eq_error {field : FieldIndex} {doc : DocId} {tokens : List Token}
    {groups : List TermPositions} {reason : Fault}
    (failure : field.add doc tokens groups = .error reason) : reason = .additionOverflow ∧
      (UInt64.size ≤ field.docCount + 1 ∨ UInt64.size ≤ field.tokenCount + tokens.length ∨
        UInt64.size ≤ field.termCount + groups.length) := by
  unfold add at failure
  -- the table has room for the norm by the time that is put in
  cases tokens with
  | nil =>
    cases table : field.norms <;>
      simp [table, Fault.bind_eq_error_iff, Fault.checkedAdd_eq_error_iff,
        Fault.checkedAdd_eq_ok_iff] at failure ⊢ <;>
      tauto
  | cons token rest =>
    cases table : field.norms <;>
      simp [table, Fault.bind_eq_error_iff, Fault.checkedAdd_eq_error_iff,
        Fault.checkedAdd_eq_ok_iff, setNorm_grow] at failure ⊢ <;>
      tauto

/-- The counters of a field that is known to agree cover every document of it. -/
theorem Agrees.exists_remove {field : FieldIndex} (agrees : field.Agrees) (doc : DocId) :
    ∃ next, field.remove doc = .ok next := by
  cases present : field.positions[doc]? with
  | none => exact ⟨field, remove_of_absent present⟩
  | some groups =>
    have docs := DocMap.le_total present docWeight
    have tokens := DocMap.le_total present tokenTotal
    have terms := DocMap.le_total present List.length
    rw [← agrees.docCount_eq, docWeight] at docs
    rw [← agrees.tokenCount_eq] at tokens
    rw [← agrees.termCount_eq] at terms
    refine ⟨_, (remove_eq_ok_iff present).mpr ⟨fun some => ?_, tokens, terms, rfl⟩⟩
    rwa [if_neg some] at docs

/-- No counter of a field exceeds a bound. -/
def Within (field : FieldIndex) (bound : Nat) : Prop :=
  field.docCount ≤ bound ∧ field.tokenCount ≤ bound ∧ field.termCount ≤ bound

theorem Within.mono {field : FieldIndex} {bound larger : Nat} (within : field.Within bound)
    (order : bound ≤ larger) : field.Within larger :=
  ⟨within.1.trans order, within.2.1.trans order, within.2.2.trans order⟩

theorem Within.withTable {field : FieldIndex} {bound : Nat} (within : field.Within bound)
    (norms : Bool) : (field.withTable norms).Within bound := by
  cases norms <;> exact within

theorem Within.remove {field next : FieldIndex} {doc : DocId} {bound : Nat}
    (within : field.Within bound) (success : field.remove doc = .ok next) : next.Within bound := by
  cases present : field.positions[doc]? with
  | none =>
    rw [remove_of_absent present] at success
    cases success
    exact within
  | some groups =>
    obtain ⟨-, -, -, rfl⟩ := (remove_eq_ok_iff present).mp success
    exact ⟨(Nat.sub_le _ _).trans within.1, (Nat.sub_le _ _).trans within.2.1,
      (Nat.sub_le _ _).trans within.2.2⟩

theorem Within.add {field next : FieldIndex} {doc : DocId} {tokens : List Token} {bound : Nat}
    (within : field.Within bound)
    (success : field.add doc tokens (groupByTerm tokens) = .ok next) :
    next.Within (bound + (tokens.length + 1)) := by
  obtain ⟨-, -, -, rfl⟩ := add_eq_ok_iff.mp success
  obtain ⟨docs, total, terms⟩ := within
  have groups := length_groupByTerm_le tokens
  refine ⟨?_, ?_, ?_⟩ <;> simp only [added]
  · split <;> omega
  · omega
  · omega

end FieldIndex

/-- What a document counts for: itself and each of its tokens. -/
def Document.load (document : Document) : Nat :=
  (document.tokens.map fun entry => entry.2.length).sum + 1

theorem Document.length_lt_load {document : Document} {field : FieldId} {tokens : List Token}
    (member : (field, tokens) ∈ document.tokens) : tokens.length + 1 ≤ document.load := by
  have part : tokens.length ≤ (document.tokens.map fun entry => entry.2.length).sum :=
    List.le_sum_of_mem (List.mem_map_of_mem (f := fun entry => entry.2.length) member)
  exact Nat.succ_le_succ part

def Operation.load : Operation → Nat
  | .addField _ => 0
  | .insert document => document.load
  | .erase _ => 0

namespace Index

theorem updateField_eq_error {fields : Std.ExtTreeMap FieldId FieldIndex} {own : FieldId}
    {change : FieldIndex → Except Fault FieldIndex} {reason : Fault}
    (failure : updateField fields own change = .error reason) :
    ∃ field, fields[own]? = some field ∧ change field = .error reason := by
  unfold updateField at failure
  split at failure
  · rename_i field present
    rw [Fault.bind_eq_error_iff] at failure
    rcases failure with failed | ⟨_, -, failed⟩
    · exact ⟨field, present, failed⟩
    · cases failed
  · cases failure

/-- Changing several fields fails only with the change of one of them. -/
theorem updateFields_eq_error {entries : List (FieldId × List Token)}
    (distinct : (entries.map Prod.fst).Nodup)
    (change : FieldId × List Token → FieldIndex → Except Fault FieldIndex)
    {fields : Std.ExtTreeMap FieldId FieldIndex} {reason : Fault}
    (failure : entries.foldlM (fun fields entry => updateField fields entry.1 (change entry))
      fields = .error reason) :
    ∃ entry ∈ entries, ∃ field, fields[entry.1]? = some field ∧
      change entry field = .error reason := by
  induction entries generalizing fields with
  | nil => cases failure
  | cons entry rest ih =>
    rw [List.map_cons, List.nodup_cons] at distinct
    rw [List.foldlM_cons, Fault.bind_eq_error_iff] at failure
    rcases failure with failed | ⟨middle, first, later⟩
    · obtain ⟨field, present, changes⟩ := updateField_eq_error failed
      exact ⟨entry, List.mem_cons_self, field, present, changes⟩
    · obtain ⟨other, member, field, present, changes⟩ := ih distinct.2 later
      refine ⟨other, List.mem_cons_of_mem _ member, field, ?_, changes⟩
      obtain ⟨before, start, ⟨-, rfl⟩ | ⟨same, -⟩⟩ :=
        (updateField_fieldwise first).of_present other.1 field present
      · exact start
      · exact absurd (same ▸ List.mem_map_of_mem member) distinct.1

/-- Removing a document never fails, and tells whether there was one. -/
theorem Sound.exists_erase {index : Index} (sound : index.Sound) (key : String) :
    ∃ next, index.erase key = .ok (next, (index.ids[key]?).isSome) := by
  cases erased : index.erase key with
  | ok result =>
    obtain ⟨next, removed⟩ := result
    rcases Index.erase_eq_ok erased with ⟨absent, -, rfl⟩ | ⟨doc, after, present, rfl, -⟩
    · exact ⟨next, by rw [absent]; rfl⟩
    · exact ⟨next, by rw [present]; rfl⟩
  | error reason =>
    unfold Index.erase at erased
    split at erased
    · cases erased
    rename_i doc present
    rw [Fault.bind_eq_error_iff] at erased
    rcases erased with failed | ⟨_, -, failed⟩
    · have distinct :
          (((index.documents[doc]?.map Document.tokens).getD []).map Prod.fst).Nodup := by
        cases index.documents[doc]? with
        | none => exact List.nodup_nil
        | some document => exact document.tokens_nodup
      obtain ⟨entry, -, field, known, changes⟩ :=
        updateFields_eq_error distinct (fun _ => (·.remove doc)) failed
      obtain ⟨next, removed⟩ := (sound.agrees entry.1 field known).exists_remove doc
      rw [removed] at changes
      cases changes
    · cases failed

/-- No number given out and no counter of a field exceeds a bound. -/
structure Within (index : Index) (bound : Nat) : Prop where
  nextId_le : index.nextId ≤ bound
  fields_within : ∀ (id : FieldId) (field : FieldIndex), index.fields[id]? = some field →
    field.Within bound

theorem within_empty (similarity : Similarity) : (empty similarity).Within 0 where
  nextId_le := Nat.le_refl 0
  fields_within id field present := by simp [empty] at present

theorem Within.addField {index next : Index} {field : Field} {id : FieldId} {bound : Nat}
    (within : index.Within bound) (success : index.addField field = .ok (next, id)) :
    next.Within bound := by
  constructor
  · obtain ⟨schema, -, -, rfl⟩ := addField_eq_ok success
    exact within.nextId_le
  · exact forall_fields_addField success (fun _ => ⟨Nat.zero_le _, Nat.zero_le _, Nat.zero_le _⟩)
      (fun _ _ norms small => small.withTable norms) within.fields_within

theorem Within.erase {index next : Index} {key : String} {removed : Bool} {bound : Nat}
    (within : index.Within bound) (success : index.erase key = .ok (next, removed)) :
    next.Within bound := by
  rcases Index.erase_eq_ok success with ⟨-, rfl, -⟩ | ⟨doc, after, -, -, rfl, fields⟩
  · exact within
  refine ⟨within.nextId_le, fun id left present => ?_⟩
  obtain ⟨field, before, ⟨rfl, -⟩ | removed⟩ := fields.of_present id left present
  · exact within.fields_within id left before
  · exact (within.fields_within id field before).remove removed

theorem Within.insert {index next : Index} {document : Document} {doc : DocId} {bound : Nat}
    (within : index.Within bound) (success : index.insert document = .ok (next, doc)) :
    next.Within (bound + document.load) := by
  obtain ⟨cleared, removed, after, erased, -, -, rfl, fields⟩ := Index.insert_eq_ok success
  have clean : cleared.Within bound := within.erase erased
  refine ⟨Nat.add_le_add clean.nextId_le (Nat.le_add_left 1 _), fun id grown present => ?_⟩
  obtain ⟨field, before, ⟨rfl, -⟩ | ⟨tokens, member, -, added⟩⟩ :=
    fields.of_present id grown present
  · exact (clean.fields_within id grown before).mono (Nat.le_add_right _ _)
  · exact ((clean.fields_within id field before).add added).mono
      (Nat.add_le_add_left (Document.length_lt_load member) bound)

/-- Inserting a document fails only if the counters have no room for it. -/
theorem Within.insert_eq_error {index : Index} {document : Document} {bound : Nat} {reason : Fault}
    (within : index.Within bound) (sound : index.Sound)
    (failure : index.insert document = .error reason) :
    reason = .additionOverflow ∧ UInt64.size ≤ bound + document.load := by
  obtain ⟨cleared, erased⟩ := sound.exists_erase document.key
  have clean : cleared.Within bound := within.erase erased
  unfold Index.insert at failure
  rw [erased, Fault.ok_bind] at failure
  simp only at failure
  rw [Fault.bind_eq_error_iff, Fault.checkedAdd_eq_error_iff] at failure
  rcases failure with ⟨full, same⟩ | ⟨_, -, failure⟩
  · refine ⟨same, ?_⟩
    calc UInt64.size ≤ cleared.nextId + 1 := full
      _ ≤ bound + document.load := Nat.add_le_add clean.nextId_le (Nat.le_add_left 1 _)
  rw [Fault.bind_eq_error_iff] at failure
  rcases failure with failed | ⟨_, -, failed⟩
  · have distinct : ((document.tokens.filter fun entry =>
        cleared.schema.isIndexed entry.1).map Prod.fst).Nodup :=
      document.tokens_nodup.sublist (List.filter_sublist.map _)
    obtain ⟨⟨id, tokens⟩, member, field, present, changes⟩ := updateFields_eq_error distinct
      (fun entry => (·.add cleared.nextId entry.2 (groupByTerm entry.2))) failed
    have load := Document.length_lt_load (List.mem_of_mem_filter member)
    have groups := length_groupByTerm_le tokens
    obtain ⟨docs, total, terms⟩ := clean.fields_within id field present
    obtain ⟨same, full⟩ := FieldIndex.add_eq_error changes
    simp only at full
    exact ⟨same, by omega⟩
  · cases failed

def load (operations : List Operation) : Nat :=
  (operations.map Operation.load).sum

theorem load_append_singleton (operations : List Operation) (operation : Operation) :
    load (operations ++ [operation]) = load operations + operation.load := by
  rw [load, List.map_append, List.sum_append, List.map_singleton, List.sum_singleton, load]

theorem within_of_run {similarity : Similarity} {operations : List Operation} {index : Index}
    (reached : run similarity operations = .ok index) : index.Within (load operations) := by
  refine run_induction (motive := fun operations index => index.Within (load operations))
    (within_empty similarity) ?_ reached
  intro operations index operation next _ within performed
  rw [load_append_singleton]
  cases operation with
  | addField field =>
    rcases perform_addField performed with ⟨id, registered⟩ | rfl
    · exact within.addField registered
    · exact within
  | insert document =>
    obtain ⟨⟨_, doc⟩, inserted, rfl⟩ := Fault.map_eq_ok_iff.mp performed
    exact within.insert inserted
  | erase key =>
    obtain ⟨⟨_, removed⟩, erased, rfl⟩ := Fault.map_eq_ok_iff.mp performed
    exact within.erase erased

theorem perform_eq_error {index : Index} {operation : Operation} {bound : Nat} {reason : Fault}
    (within : index.Within bound) (sound : index.Sound)
    (failure : index.perform operation = .error reason) :
    reason = .additionOverflow ∧ UInt64.size ≤ bound + operation.load := by
  cases operation with
  | addField field =>
    unfold perform at failure
    simp only at failure
    split at failure <;> cases failure
  | insert document =>
    cases inserted : index.insert document with
    | ok result =>
      simp only [perform, inserted] at failure
      cases failure
    | error cause =>
      simp only [perform, inserted] at failure
      cases failure
      exact within.insert_eq_error sound inserted
  | erase key =>
    obtain ⟨next, erased⟩ := sound.exists_erase key
    simp only [perform, erased] at failure
    cases failure

/-- A run fails only if the counters have no room for what it puts into the index. -/
theorem run_eq_error {similarity : Similarity} {operations : List Operation} {reason : Fault}
    (failure : run similarity operations = .error reason) :
    reason = .additionOverflow ∧ UInt64.size ≤ load operations := by
  induction operations using List.reverseRecOn with
  | nil => cases failure
  | append_singleton operations operation ih =>
    rw [load_append_singleton]
    rw [run, List.foldlM_append, Fault.bind_eq_error_iff] at failure
    rcases failure with failed | ⟨index, reached, failure⟩
    · obtain ⟨same, full⟩ := ih failed
      exact ⟨same, by omega⟩
    rw [List.foldlM_cons, Fault.bind_eq_error_iff] at failure
    rcases failure with failed | ⟨_, -, failed⟩
    · exact perform_eq_error (within_of_run reached) (sound_of_run reached) failed
    · cases failed

end Index

end Relevance
