import Relevance.Proofs.Index.Sound

set_option autoImplicit false

namespace Relevance.Index

variable {index : Index}

theorem Sound.lt_nextId (sound : index.Sound) {id : FieldId} {field : FieldIndex} {doc : DocId}
    {groups : List TermPositions} (present : index.fields[id]? = some field)
    (known : field.positions[doc]? = some groups) : doc < index.nextId := by
  obtain ⟨-, document, tokens, stored, -⟩ := sound.grounded id field doc groups present known
  exact sound.issued doc document stored

theorem Sound.docCount_le (sound : index.Sound) {id : FieldId} {field : FieldIndex}
    (present : index.fields[id]? = some field) : field.docCount ≤ index.maxDoc := by
  rw [(sound.agrees id field present).docCount_eq]
  calc DocMap.total field.positions FieldIndex.docWeight
      ≤ field.positions.size := by
        apply DocMap.total_le_size
        intro groups
        unfold FieldIndex.docWeight
        split <;> omega
    _ ≤ index.maxDoc := by
        apply DocMap.size_le
        intro doc groups known
        exact sound.lt_nextId present known

/-- The number of documents with a token is always known, and small enough for a word. -/
theorem Sound.effectiveDocCount_eq (sound : index.Sound) (field : FieldId) :
    ((index.fieldStatistics field).effectiveDocCount : Int) =
      (index.fieldStatistics field).docCount := by
  unfold fieldStatistics FieldStatistics.effectiveDocCount
  cases present : index.fields[field]? with
  | none => rfl
  | some counts =>
    have bound : counts.docCount < UInt64.size :=
      Nat.lt_of_le_of_lt (sound.docCount_le present) sound.nextId_lt
    simp only
    rw [if_neg (by omega), ← Int.natCast_mod, Int.toNat_natCast, Nat.mod_eq_of_lt bound]

theorem Sound.effectiveDocCount_le (sound : index.Sound) (field : FieldId) :
    (index.fieldStatistics field).effectiveDocCount ≤ index.maxDoc := by
  have same := sound.effectiveDocCount_eq field
  rw [fieldStatistics] at same ⊢
  cases present : index.fields[field]? with
  | none =>
    simp only [present] at same ⊢
    omega
  | some counts =>
    have bound : counts.docCount ≤ index.maxDoc := sound.docCount_le present
    simp only [present] at same ⊢
    omega

theorem Sound.docFreq_le (sound : index.Sound) (field : FieldId) (term : Term) :
    (index.termStatistics field term).docFreq ≤ index.maxDoc := by
  unfold termStatistics FieldIndex.termStatistics
  cases present : index.fields[field]? with
  | none => exact Nat.zero_le _
  | some kept =>
    cases posted : kept.docs? term with
    | none => simp only [posted]; exact Nat.zero_le _
    | some docs =>
      simp only [posted]
      refine DocSet.size_le index.maxDoc fun doc member => ?_
      have listed : FieldIndex.Posts kept.postings term doc := ⟨docs, posted, member⟩
      rw [(sound.agrees field kept present).posts_iff] at listed
      obtain ⟨groups, known, -⟩ := listed
      exact sound.lt_nextId present known

end Relevance.Index
