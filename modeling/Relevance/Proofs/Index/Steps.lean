import Mathlib.Tactic.Tauto
import Relevance.Index.Store
import Relevance.Proofs.Index.Postings

set_option autoImplicit false

namespace Relevance

namespace Schema

theorem add_eq_ok {schema next : Schema} {field : Field} {id : FieldId}
    (success : schema.add field = .ok (next, id)) :
    next.fields = schema.fields ++ [field] ∧ id = schema.nextId := by
  unfold add at success
  split at success
  · cases success
  · cases success
    exact ⟨rfl, rfl⟩

/-- Once all numbers are given out, the next one is among them. -/
theorem toNat_nextId_le (schema : Schema) : schema.nextId.toNat ≤ schema.fields.length := by
  rw [nextId, UInt32.toNat_ofNat']
  exact Nat.mod_le _ _

theorem toNat_nextId {schema : Schema} (room : schema.fields.length < UInt32.size) :
    schema.nextId.toNat = schema.fields.length :=
  UInt32.toNat_ofNat_of_lt' room

/-- A number is given out with the next field if it is the next one. -/
theorem toNat_lt_succ_iff {schema : Schema} {id : FieldId} :
    id.toNat < schema.fields.length + 1 ↔ id.toNat < schema.fields.length ∨ id = schema.nextId := by
  constructor
  · intro within
    rcases Nat.lt_succ_iff_lt_or_eq.mp within with old | new
    · exact Or.inl old
    · refine Or.inr (UInt32.toNat_inj.mp ?_)
      rw [toNat_nextId (new ▸ id.toNat_lt), new]
  · rintro (old | rfl)
    · exact Nat.lt_succ_of_lt old
    · exact Nat.lt_succ_of_le (toNat_nextId_le schema)

theorem isIndexed_of_append {schema next : Schema} {field : Field} {id : FieldId}
    (appended : next.fields = schema.fields ++ [field]) (old : id.toNat < schema.fields.length) :
    next.isIndexed id = schema.isIndexed id := by
  simp only [isIndexed, get?, appended, List.getElem?_append_left old]

theorem lt_of_isIndexed {schema : Schema} {id : FieldId} (indexed : schema.isIndexed id) :
    id.toNat < schema.fields.length := by
  unfold isIndexed get? at indexed
  by_contra outside
  rw [List.getElem?_eq_none (Nat.le_of_not_lt outside)] at indexed
  cases indexed

end Schema

/-- Two stages of an index have the same fields, each related to what it was before. -/
structure Fieldwise (relate : FieldId → FieldIndex → FieldIndex → Prop)
    (before after : Std.ExtTreeMap FieldId FieldIndex) : Prop where
  isSome_eq : ∀ id : FieldId, (after[id]?).isSome = (before[id]?).isSome
  of_present : ∀ (id : FieldId) (next : FieldIndex), after[id]? = some next →
    ∃ field, before[id]? = some field ∧ relate id field next

namespace Fieldwise

variable {relate changed composed : FieldId → FieldIndex → FieldIndex → Prop}
  {before middle after : Std.ExtTreeMap FieldId FieldIndex}

theorem refl (same : ∀ id field, relate id field field) : Fieldwise relate before before :=
  ⟨fun _ => rfl, fun id next present => ⟨next, present, same id next⟩⟩

theorem trans (first : Fieldwise relate before middle) (second : Fieldwise changed middle after)
    (compose : ∀ id field inner next, relate id field inner → changed id inner next →
      composed id field next) : Fieldwise composed before after := by
  refine ⟨fun id => (second.isSome_eq id).trans (first.isSome_eq id), fun id next present => ?_⟩
  obtain ⟨inner, found, later⟩ := second.of_present id next present
  obtain ⟨field, start, earlier⟩ := first.of_present id inner found
  exact ⟨field, start, compose id field inner next earlier later⟩

theorem mono (stages : Fieldwise relate before after)
    (weaken : ∀ id field next, before[id]? = some field → relate id field next →
      composed id field next) : Fieldwise composed before after := by
  refine ⟨stages.isSome_eq, fun id next present => ?_⟩
  obtain ⟨field, start, holds⟩ := stages.of_present id next present
  exact ⟨field, start, weaken id field next start holds⟩

end Fieldwise

namespace Index

theorem updateField_fieldwise {fields after : Std.ExtTreeMap FieldId FieldIndex} {own : FieldId}
    {change : FieldIndex → Except Fault FieldIndex}
    (success : updateField fields own change = .ok after) :
    Fieldwise (fun id field next => (id ≠ own ∧ next = field) ∨ (id = own ∧ change field = .ok next))
      fields after := by
  unfold updateField at success
  split at success
  · rename_i field present
    rw [Fault.bind_eq_ok_iff] at success
    obtain ⟨changed, changes, done⟩ := success
    cases done
    constructor
    · intro id
      simp only [Std.ExtTreeMap.getElem?_insert, Std.LawfulEqCmp.compare_eq_iff_eq]
      split
      · rename_i same
        rw [← same, present, Option.isSome_some, Option.isSome_some]
      · rfl
    · intro id next found
      simp only [Std.ExtTreeMap.getElem?_insert, Std.LawfulEqCmp.compare_eq_iff_eq] at found
      split at found
      · rename_i same
        cases found
        exact ⟨field, same ▸ present, Or.inr ⟨same.symm, changes⟩⟩
      · rename_i differs
        exact ⟨next, found, Or.inl ⟨Ne.symm differs, rfl⟩⟩
  · rename_i absent
    cases success
    refine ⟨fun _ => rfl, fun id next found => ⟨next, found, Or.inl ⟨?_, rfl⟩⟩⟩
    rintro rfl
    rw [absent] at found
    cases found

/-- Each field of a list is changed once, and all others stay. -/
theorem updateFields_fieldwise {entries : List (FieldId × List Token)}
    (distinct : (entries.map Prod.fst).Nodup)
    (change : FieldId × List Token → FieldIndex → Except Fault FieldIndex)
    {fields after : Std.ExtTreeMap FieldId FieldIndex}
    (success : entries.foldlM (fun fields entry => updateField fields entry.1 (change entry))
      fields = .ok after) :
    Fieldwise (fun id field next => (id ∉ entries.map Prod.fst ∧ next = field) ∨
        ∃ tokens, (id, tokens) ∈ entries ∧ change (id, tokens) field = .ok next)
      fields after := by
  induction entries generalizing fields with
  | nil =>
    cases success
    exact Fieldwise.refl fun _ _ => Or.inl ⟨List.not_mem_nil, rfl⟩
  | cons entry rest ih =>
    rw [List.map_cons, List.nodup_cons] at distinct
    rw [List.foldlM_cons, Fault.bind_eq_ok_iff] at success
    obtain ⟨middle, first, later⟩ := success
    refine (updateField_fieldwise first).trans (ih distinct.2 later) ?_
    rintro id field inner next (⟨differs, rfl⟩ | ⟨rfl, changed⟩) others
    · rcases others with ⟨outside, rfl⟩ | ⟨tokens, member, changes⟩
      · exact Or.inl ⟨by simp [differs, outside], rfl⟩
      · exact Or.inr ⟨tokens, List.mem_cons_of_mem _ member, changes⟩
    · rcases others with ⟨-, rfl⟩ | ⟨tokens, member, -⟩
      · exact Or.inr ⟨entry.2, List.mem_cons_self, changed⟩
      · exact absurd (List.mem_map_of_mem member) distinct.1

theorem addField_eq_ok {index next : Index} {field : Field} {id : FieldId}
    (success : index.addField field = .ok (next, id)) :
    ∃ schema, schema.fields = index.schema.fields ++ [field] ∧ id = index.schema.nextId ∧
      next = { index with
        schema
        fields := index.fields.insert id
          ((index.fields[id]?.getD .empty).withTable field.flags.norms) } := by
  unfold addField at success
  cases registered : index.schema.add field with
  | error reason =>
    rw [registered] at success
    cases success
  | ok result =>
    rw [registered] at success
    cases success
    exact ⟨result.1, (Schema.add_eq_ok registered).1, (Schema.add_eq_ok registered).2, rfl⟩

/-- Removing a document removes it from each of its fields. -/
theorem erase_eq_ok {index next : Index} {key : String} {removed : Bool}
    (success : index.erase key = .ok (next, removed)) :
    (index.ids[key]? = none ∧ next = index ∧ removed = false) ∨
      ∃ doc after, index.ids[key]? = some doc ∧ removed = true ∧
        next = { index with
          ids := index.ids.erase key, documents := index.documents.erase doc, fields := after } ∧
        Fieldwise (fun id field left =>
            (left = field ∧ ∀ document tokens, index.documents[doc]? = some document →
              (id, tokens) ∉ document.tokens) ∨ field.remove doc = .ok left)
          index.fields after := by
  unfold erase at success
  split at success
  · rename_i absent
    cases success
    exact Or.inl ⟨absent, rfl, rfl⟩
  · rename_i doc present
    rw [Fault.bind_eq_ok_iff] at success
    obtain ⟨after, updated, done⟩ := success
    cases done
    have distinct : (((index.documents[doc]?.map Document.tokens).getD []).map Prod.fst).Nodup := by
      cases index.documents[doc]? with
      | none => exact List.nodup_nil
      | some document => exact document.tokens_nodup
    refine Or.inr ⟨doc, after, present, rfl, rfl,
      (updateFields_fieldwise distinct (fun _ => (·.remove doc)) updated).mono ?_⟩
    rintro id field left - (⟨outside, same⟩ | ⟨_, -, changed⟩)
    · refine Or.inl ⟨same, fun document tokens stored member => ?_⟩
      rw [stored] at outside
      exact outside (List.mem_map_of_mem member)
    · exact Or.inr changed

/-- A new document is added to each of its fields that are indexed. -/
theorem insert_eq_ok {index next : Index} {document : Document} {doc : DocId}
    (success : index.insert document = .ok (next, doc)) :
    ∃ cleared removed after, index.erase document.key = .ok (cleared, removed) ∧
      doc = cleared.nextId ∧ cleared.nextId + 1 < UInt64.size ∧
      next = { cleared with
        nextId := cleared.nextId + 1
        ids := cleared.ids.insert document.key cleared.nextId
        documents := cleared.documents.insert cleared.nextId document
        fields := after } ∧
      Fieldwise (fun id field grown =>
          (grown = field ∧ ∀ tokens, (id, tokens) ∈ document.tokens →
            cleared.schema.isIndexed id = false) ∨
          ∃ tokens, (id, tokens) ∈ document.tokens ∧ cleared.schema.isIndexed id = true ∧
            field.add cleared.nextId tokens (groupByTerm tokens) = .ok grown)
        cleared.fields after := by
  unfold insert at success
  rw [Fault.bind_eq_ok_iff] at success
  obtain ⟨⟨cleared, removed⟩, erased, inserted⟩ := success
  simp only [Fault.bind_eq_ok_iff, Fault.checkedAdd_eq_ok_iff] at inserted
  obtain ⟨_, ⟨fits, rfl⟩, after, updated, done⟩ := inserted
  cases done
  have distinct : ((document.tokens.filter fun entry =>
      cleared.schema.isIndexed entry.1).map Prod.fst).Nodup :=
    document.tokens_nodup.sublist (List.filter_sublist.map _)
  refine ⟨cleared, removed, after, erased, rfl, fits, rfl, (updateFields_fieldwise distinct
    (fun entry => (·.add cleared.nextId entry.2 (groupByTerm entry.2))) updated).mono ?_⟩
  rintro id field grown - (⟨outside, same⟩ | ⟨tokens, member, changed⟩)
  · refine Or.inl ⟨same, fun tokens member => ?_⟩
    by_contra indexed
    rw [Bool.not_eq_false] at indexed
    exact outside (List.mem_map_of_mem (f := Prod.fst) (List.mem_filter.mpr ⟨member, indexed⟩))
  · rw [List.mem_filter] at member
    exact Or.inr ⟨tokens, member.1, member.2, changed⟩

end Index

end Relevance
