import Relevance.Proofs.Index.NormByte
import Relevance.Proofs.Index.Norms
import Relevance.Proofs.Index.Statistics
import Relevance.Proofs.Numeric.Bounds

set_option autoImplicit false

namespace Relevance

open Rounding

namespace Norm

theorem between_decode_least : Single.Between (2 ^ (-16 : Int)) (2 ^ (-16 : Int)) (decode 60) := by
  have exact : Single.Between (scaled (2 ^ 23) (-39)) (scaled (2 ^ 23) (-39)) (decode 60) :=
    Single.between_of_eq_pack (by decide) (by decide +kernel)
      ⟨by decide, by decide, by decide, Or.inl (by decide)⟩ (by decide)
  rwa [show scaled (2 ^ 23) (-39) = 2 ^ (-16 : Int) from scaled_two_pow 23 (-39)] at exact

/-- Larger bytes stand for larger numbers. -/
theorem decode_le_decode {low high : UInt8} (order : low ≤ high) : decode low ≤ decode high := by
  apply le_of_orderKey_le (isNaN_decode _) (isNaN_decode _)
  rw [UInt8.le_iff_toNat_le] at order
  rw [orderKey_decode, orderKey_decode, droppedBits, offset]
  split
  · split <;> omega
  · rename_i nonzero
    have positive : low.toNat ≠ 0 := by
      intro none
      exact nonzero (UInt8.toNat_inj.mp none)
    rw [if_neg]
    · omega
    · rintro rfl
      exact positive (Nat.le_zero.mp order)

/-- What a byte stands for that is not too small. -/
theorem spans_decode {byte : UInt8} (least : 60 ≤ byte) : Single.Spans (-16) 33 (decode byte) := by
  have greatest : byte ≤ 255 := UInt8.le_iff_toNat_le.mpr (Nat.le_of_lt_succ byte.toNat_lt)
  have highest : Single.Between (scaled 14680064 9) (scaled 14680064 9) (decode 255) :=
    Single.between_of_eq_pack (by decide) (by decide +kernel)
      ⟨by decide, by decide, by decide, Or.inl (by decide)⟩ (by decide)
  have between := Single.between_of_le between_decode_least highest (zpow_pos_two _)
    (decode_le_decode least) (decode_le_decode greatest)
  apply Rounding.Between.mono between (le_refl _)
  rw [scaled]
  norm_num

end Norm

namespace FieldIndex

/-- The norm of any tokens is at least one over the root of `2 ^ 32`. -/
theorem least_le_lengthNorm (tokens : List Token) : 60 ≤ lengthNorm tokens := by
  unfold lengthNorm Similarity.lengthNorm
  obtain ⟨counted, same⟩ : ∃ counted, counted = (UInt32.ofNat tokens.length).toNat -
      (UInt32.ofNat (overlapCount tokens)).toNat := ⟨_, rfl⟩
  have word := (UInt32.ofNat tokens.length).toNat_lt
  simp only [if_true, ← same, Single.one_mul]
  rcases Nat.eq_zero_or_pos counted with zero | positive
  · rw [zero]
    decide +kernel
  have count : Double.Spans 0 (32 : Nat) (countToDouble counted) :=
    Double.spans_countToDouble positive (by omega) (by decide)
      (show counted < 2 ^ 64 by omega)
  have root : Double.Spans 0 16 (countToDouble counted).sqrt :=
    count.sqrt (by decide) (by decide) (by decide) (by decide)
  have inverse : Double.Spans (-16) 0 (1.0 / (countToDouble counted).sqrt) :=
    Double.spans_one.div root (by decide) (by decide) (by decide) (by decide)
  rw [← Norm.encode_decode 60]
  exact Norm.encode_le_encode
    (Single.le_of_between Norm.between_decode_least (inverse.narrow (by decide) (by decide)))

/-- The norm of a document with terms is that of some tokens. -/
def Measured (field : FieldIndex) : Prop :=
  ∀ (doc : DocId) (groups : List TermPositions) (norm : UInt8),
    field.positions[doc]? = some groups → groups ≠ [] → field.norm? doc = some norm →
      ∃ tokens, norm = lengthNorm tokens

theorem measured_new (norms : Bool) : (FieldIndex.empty.withTable norms).Measured := by
  intro doc groups norm known
  simp [empty] at known

theorem Measured.add {field next : FieldIndex} {doc : DocId} {tokens : List Token}
    (measured : field.Measured) (success : field.add doc tokens (groupByTerm tokens) = .ok next) :
    next.Measured := by
  intro other groups norm known some read
  by_cases differs : doc = other
  · subst differs
    obtain ⟨-, -, -, rfl⟩ := add_eq_ok_iff.mp success
    rw [added, Std.ExtTreeMap.getElem?_insert_self] at known
    cases known
    have nonempty : tokens ≠ [] := by
      rintro rfl
      exact some rfl
    simp only [norm?, added, if_neg nonempty, Option.map_map, Option.map_eq_some_iff] at read
    obtain ⟨table, -, rfl⟩ := read
    exact ⟨tokens, NormTable.norm_set_grow table doc _⟩
  · rw [norm?_add_of_ne differs success] at read
    obtain ⟨-, -, -, rfl⟩ := add_eq_ok_iff.mp success
    rw [added, DocMap.getElem?_insert_of_ne differs] at known
    exact measured other groups norm known some read

theorem Measured.remove {field next : FieldIndex} {doc : DocId} (measured : field.Measured)
    (agrees : field.Agrees) (success : field.remove doc = .ok next) : next.Measured := by
  intro other groups norm known some read
  rw [(agrees.remove success).2] at known
  obtain ⟨differs, known⟩ := DocMap.getElem?_erase_eq_some known
  rw [norm?_remove_of_ne differs success] at read
  exact measured other groups norm known some read

end FieldIndex

namespace Index

variable {index : Index}

/-- A number that is given out for the first time is that of no field yet. -/
theorem Sound.absent_of_addField {next : Index} {field : Field} {id : FieldId} (sound : index.Sound)
    (success : index.addField field = .ok (next, id))
    (room : next.schema.fields.length ≤ UInt32.size) : index.fields[id]? = none := by
  obtain ⟨schema, appended, new, rfl⟩ := addField_eq_ok success
  rw [appended, List.length_append, List.length_singleton] at room
  by_contra present
  have inside := (sound.registered_iff id).mp (Option.ne_none_iff_isSome.mp present)
  rw [new, Schema.toNat_nextId room] at inside
  exact Nat.lt_irrefl _ inside

theorem length_fields_perform_le {next : Index} {operation : Operation}
    (success : index.perform operation = .ok next) :
    index.schema.fields.length ≤ next.schema.fields.length := by
  cases operation with
  | addField field =>
    rcases perform_addField success with ⟨id, registered⟩ | rfl
    · obtain ⟨schema, appended, -, rfl⟩ := addField_eq_ok registered
      rw [appended, List.length_append]
      exact Nat.le_add_right _ _
    · exact Nat.le_refl _
  | insert document | erase key =>
    rw [schema_perform success]
    exact Nat.le_refl _

/-- A property of a field that holds before there are documents, and that adding and removing
documents keeps, holds of every field after every run that gives no number out twice. -/
theorem forall_fields_of_run {holds : FieldIndex → Prop}
    (start : ∀ norms, holds (FieldIndex.empty.withTable norms))
    (add : ∀ {field next : FieldIndex} {doc : DocId} {tokens : List Token}, holds field →
      field.add doc tokens (groupByTerm tokens) = .ok next → holds next)
    (remove : ∀ {field next : FieldIndex} {doc : DocId}, holds field → field.Agrees →
      field.remove doc = .ok next → holds next)
    {similarity : Similarity} {operations : List Operation}
    (reached : run similarity operations = .ok index)
    (room : index.schema.fields.length ≤ UInt32.size) :
    ∀ (id : FieldId) (field : FieldIndex), index.fields[id]? = some field → holds field := by
  have erase : ∀ {before after : Index} {key : String} {removed : Bool}, before.Sound →
      (∀ (id : FieldId) (field : FieldIndex), before.fields[id]? = some field → holds field) →
      before.erase key = .ok (after, removed) →
      ∀ (id : FieldId) (field : FieldIndex), after.fields[id]? = some field → holds field := by
    intro before after key removed sound all success id left present
    rcases erase_eq_ok success with ⟨-, rfl, -⟩ | ⟨doc, _, -, -, rfl, fields⟩
    · exact all id left present
    obtain ⟨field, found, ⟨rfl, -⟩ | removed⟩ := fields.of_present id left present
    · exact all id left found
    · exact remove (all id field found) (sound.agrees id field found) removed
  refine run_induction (motive := fun _ index => index.schema.fields.length ≤ UInt32.size →
    ∀ (id : FieldId) (field : FieldIndex), index.fields[id]? = some field → holds field)
    (fun _ id field present => ?_) ?_ reached room
  · simp [empty] at present
  intro operations before operation next earlier kept performed room id field present
  have all := kept (Nat.le_trans (length_fields_perform_le performed) room)
  have sound : before.Sound := sound_of_run earlier
  cases operation with
  | addField field =>
    rcases perform_addField performed with ⟨new, registered⟩ | rfl
    · rcases getElem?_addField registered present with
        ⟨rfl, _, there | ⟨-, rfl⟩, rfl⟩ | ⟨-, old⟩
      · rw [sound.absent_of_addField registered room] at there
        cases there
      · exact start _
      · exact all id _ old
    · exact all id _ present
  | insert document =>
    obtain ⟨⟨_, doc⟩, inserted, rfl⟩ := Fault.map_eq_ok_iff.mp performed
    obtain ⟨cleared, removed, _, erased, -, -, rfl, fields⟩ := insert_eq_ok inserted
    obtain ⟨old, found, ⟨rfl, -⟩ | ⟨tokens, -, -, added⟩⟩ := fields.of_present id field present
    · exact erase sound all erased id field found
    · exact add (erase sound all erased id old found) added
  | erase key =>
    obtain ⟨⟨_, removed⟩, erased, rfl⟩ := Fault.map_eq_ok_iff.mp performed
    exact erase sound all erased id field present

/-- After a run a document with a term has a norm that is not too small. -/
theorem spans_norm_of_run {similarity : Similarity} {operations : List Operation}
    (reached : run similarity operations = .ok index)
    (room : index.schema.fields.length ≤ UInt32.size) {doc : DocId} {field : FieldId} {term : Term}
    (stands : index.positions doc field term ≠ []) {table : NormTable}
    (kept : index.norms? field = some table) :
    Single.Spans (-16) 33 (Norm.decode (table.norm doc)) := by
  obtain ⟨entry, present, norms⟩ := Option.bind_eq_some_iff.mp kept
  have measured : entry.Measured := forall_fields_of_run FieldIndex.measured_new
    (fun holds => holds.add) (fun holds agrees => holds.remove agrees) reached room field entry
    present
  rw [positions, present, Option.map_some, Option.getD_some, FieldIndex.positionsIn] at stands
  cases known : entry.positions[doc]? with
  | none =>
    rw [known] at stands
    exact absurd rfl stands
  | some groups =>
    have some : groups ≠ [] := by
      rintro rfl
      rw [known] at stands
      exact stands rfl
    have read : entry.norm? doc = Option.some (table.norm doc) := by
      rw [FieldIndex.norm?, norms, Option.map_some]
    obtain ⟨tokens, same⟩ := measured doc groups _ known some read
    rw [same]
    exact Norm.spans_decode (FieldIndex.least_le_lengthNorm tokens)

/-- No more documents have a term than have a token, also if documents came before the field was
registered. -/
theorem Sound.docFreq_le_effectiveDocCount (sound : index.Sound) (field : FieldId) (term : Term) :
    (index.termStatistics field term).docFreq ≤
      (index.fieldStatistics field).effectiveDocCount := by
  have same := sound.effectiveDocCount_eq field
  unfold termStatistics FieldIndex.termStatistics
  cases present : index.fields[field]? with
  | none => exact Nat.zero_le _
  | some kept =>
    cases posted : kept.docs? term with
    | none =>
      simp only [posted]
      exact Nat.zero_le _
    | some docs =>
      have agrees := sound.agrees field kept present
      have each : ∀ doc ∈ docs.toList,
          1 = (kept.positions[doc]?.map FieldIndex.docWeight).getD 0 := by
        intro doc member
        have listed : FieldIndex.Posts kept.postings term doc :=
          ⟨docs, posted, Std.ExtTreeSet.mem_toList.mp member⟩
        obtain ⟨groups, known, stands⟩ := (agrees.posts_iff term doc).mp listed
        obtain ⟨-, _, tokens, -, -, rfl⟩ := sound.grounded field kept doc groups present known
        have positive : FieldIndex.tokenTotal (groupByTerm tokens) ≠ 0 := by
          rw [tokenTotal_groupByTerm]
          intro none
          rw [List.length_eq_zero_iff.mp none] at stands
          cases stands
        rw [known, Option.map_some, Option.getD_some, FieldIndex.docWeight, if_neg positive]
      have counted : docs.size ≤ kept.docCount := by
        calc docs.size
            = (docs.toList.map fun _ => 1).sum := by simp
          _ = (docs.toList.map fun doc =>
                (kept.positions[doc]?.map FieldIndex.docWeight).getD 0).sum := by
              rw [List.map_congr_left each]
          _ ≤ DocMap.total kept.positions FieldIndex.docWeight :=
              agrees.sum_docs_le posted FieldIndex.docWeight
          _ = kept.docCount := agrees.docCount_eq.symm
      have whole : (index.fieldStatistics field).docCount = kept.docCount := by
        simp only [fieldStatistics, present]
      simp only [posted]
      omega

end Index

end Relevance
