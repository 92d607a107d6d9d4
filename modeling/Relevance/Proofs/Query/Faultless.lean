import Relevance.Proofs.Index.Capacity
import Relevance.Proofs.Index.Statistics
import Relevance.Proofs.Query.Explaining
import Relevance.Proofs.Query.Searching

set_option autoImplicit false

namespace Relevance

def Operation.tokenCount : Operation → Nat
  | .insert document => (document.tokens.map fun entry => entry.2.length).sum
  | _ => 0

theorem Operation.load_le (operation : Operation) : operation.load ≤ operation.tokenCount + 1 := by
  cases operation with
  | addField field => exact Nat.zero_le _
  | insert document => exact Nat.le_refl _
  | erase key => exact Nat.zero_le _

namespace FieldIndex

variable {field : FieldIndex}

/-- A term stands in a document at most as often as there are tokens. -/
theorem length_positionsIn_le (field : FieldIndex) (doc : DocId) (term : Term) :
    (field.positionsIn doc term).length ≤ (field.positions[doc]?.map tokenTotal).getD 0 := by
  unfold positionsIn
  cases field.positions[doc]? with
  | none => exact Nat.le_refl 0
  | some groups =>
    rw [Option.bind_some, Option.map_some, Option.getD_some]
    cases found : groups.lookup term with
    | none => exact Nat.zero_le _
    | some positions =>
      have member : (term, positions) ∈ groups := by
        obtain ⟨before, after, rfl, -⟩ := List.lookup_eq_some_iff.mp found
        simp
      rw [Option.getD_some, tokenTotal_eq_sum]
      exact List.le_sum_of_mem (List.mem_map_of_mem (f := fun group => group.2.length) member)

/-- A term stands in all documents at most as often as there are tokens. -/
theorem Agrees.sum_positions_le (agrees : field.Agrees) {term : Term} {docs : DocSet}
    (posted : field.docs? term = some docs) :
    (docs.toList.map fun doc => (field.positionsIn doc term).length).sum ≤ field.tokenCount := by
  calc (docs.toList.map fun doc => (field.positionsIn doc term).length).sum
      ≤ (docs.toList.map fun doc => (field.positions[doc]?.map tokenTotal).getD 0).sum :=
        List.sum_le_sum fun doc _ => field.length_positionsIn_le doc term
    _ ≤ DocMap.total field.positions tokenTotal := agrees.sum_docs_le posted tokenTotal
    _ = field.tokenCount := agrees.tokenCount_eq.symm

/-- A term stands in a document at most as often as there are tokens in all. -/
theorem Agrees.length_positionsIn_le (agrees : field.Agrees) (doc : DocId) (term : Term) :
    (field.positionsIn doc term).length ≤ field.tokenCount := by
  have inside := field.length_positionsIn_le doc term
  cases entry : field.positions[doc]? with
  | none =>
    rw [entry, Option.map_none, Option.getD_none] at inside
    omega
  | some groups =>
    have counted := DocMap.le_total entry tokenTotal
    rw [← agrees.tokenCount_eq] at counted
    rw [entry, Option.map_some, Option.getD_some] at inside
    omega

end FieldIndex

namespace Index

variable {index : Index}

theorem load_le (operations : List Operation) :
    load operations ≤ operations.length + (operations.map Operation.tokenCount).sum := by
  induction operations with
  | nil => exact Nat.le_refl 0
  | cons operation rest ih =>
    have first := operation.load_le
    simp only [load, List.map_cons, List.sum_cons, List.length_cons] at ih ⊢
    omega

/-- The count of a term is not larger than the number of tokens of its field, also if documents came
before the field was registered. -/
theorem Sound.totalTermFreq_le (sound : index.Sound) (field : FieldId) (term : Term) :
    (index.termStatistics field term).totalTermFreq ≤
      (index.fieldStatistics field).sumTotalTermFreq := by
  unfold termStatistics fieldStatistics FieldIndex.termStatistics
  cases present : index.fields[field]? with
  | none => exact Int.le_refl 0
  | some kept =>
    cases posted : kept.docs? term with
    | none =>
      simp only [posted]
      exact Int.natCast_nonneg _
    | some docs =>
      simp only [posted, foldl_add_eq_sum, Int.zero_add]
      exact Int.ofNat_le.mpr ((sound.agrees field kept present).sum_positions_le posted)

theorem Within.sumTotalTermFreq_le {bound : Nat} (within : index.Within bound) (field : FieldId) :
    (index.fieldStatistics field).sumTotalTermFreq ≤ bound := by
  unfold fieldStatistics
  cases present : index.fields[field]? with
  | none => exact Int.natCast_nonneg _
  | some kept => exact Int.ofNat_le.mpr (within.fields_within field kept present).2.1

/-- A term does not stand in a document more often than there are tokens. -/
theorem Within.length_positions_le {bound : Nat} (within : index.Within bound)
    (sound : index.Sound) (doc : DocId) (field : FieldId) (term : Term) :
    (index.positions doc field term).length ≤ bound := by
  unfold positions
  cases present : index.fields[field]? with
  | none => exact Nat.zero_le bound
  | some kept =>
    have within : kept.tokenCount ≤ bound := (within.fields_within field kept present).2.1
    rw [Option.map_some, Option.getD_some]
    exact ((sound.agrees field kept present).length_positionsIn_le doc term).trans within

/-- While there is room for two more documents, every query can be bound. -/
theorem Sound.exists_plan (sound : index.Sound) (room : index.maxDoc + 2 < UInt64.size)
    (similarity : Similarity) (query : Query) :
    ∃ plan, index.plan similarity query = .ok plan ∧ plan.Binds index query := by
  rcases sound.plan_cases similarity query with bound | ⟨-, full⟩
  · exact bound
  · exact absurd full (Nat.not_le_of_lt room)

/-- With fewer than `2 ^ 62` steps and tokens no step of a run fails, and no query afterwards. -/
theorem never_fails (weighed : Similarity) {operations : List Operation}
    (room : operations.length + (operations.map Operation.tokenCount).sum < 2 ^ 62) :
    ∃ index, run weighed operations = .ok index ∧
      (∀ field term, (index.termStatistics field term).totalTermFreq < 2 ^ 62) ∧
      ∀ (similarity : Similarity) (query : Query),
        (∀ doc, ∃ found why, index.score similarity query doc = .ok found ∧
          index.explain similarity query doc = .ok why) ∧
        ∀ {α : Type} (collector : Collector α) (start : α), ∃ kept,
          index.search similarity query collector start = .ok kept := by
  have small : load operations < 2 ^ 62 := Nat.lt_of_le_of_lt (load_le operations) room
  cases reached : run weighed operations with
  | error reason =>
    have full : UInt64.size ≤ load operations := (run_eq_error reached).2
    exact absurd (Nat.lt_of_le_of_lt full small) (by decide)
  | ok index =>
    have sound : index.Sound := sound_of_run reached
    have within : index.Within (load operations) := within_of_run reached
    have below : index.maxDoc + 2 < UInt64.size := by
      have issued : index.maxDoc ≤ load operations := within.nextId_le
      have large : 2 ^ 62 + 2 < UInt64.size := by decide
      omega
    refine ⟨index, rfl, fun field term => ?_, fun similarity query => ?_⟩
    · have counted := (sound.totalTermFreq_le field term).trans (within.sumTotalTermFreq_le field)
      omega
    obtain ⟨plan, planned, binds⟩ := sound.exists_plan below similarity query
    constructor
    · intro doc
      obtain ⟨why, explained, scored⟩ : ∃ why, plan.explain index similarity doc = .ok why ∧
          plan.score index similarity doc = .ok why.score? :=
        Plan.exists_explanation binds.placed (coherent_of_plan planned) doc
      refine ⟨why.score?, why, ?_, ?_⟩
      · rw [Index.score, planned, Fault.ok_bind, scored]
      · rw [Index.explain, planned, Fault.ok_bind, explained]
    · intro α collector start
      obtain ⟨hits, found, -⟩ : ∃ hits, plan.hits index similarity = .ok hits ∧ _ :=
        Plan.exists_hits binds.placed
      exact ⟨_, search_eq_ok planned found collector start⟩

/-- Tokens stacked on one position, out of order and at both ends of the range of positions. -/
def tangledTokens : List Token := [
  ⟨.ofString "hen", 7⟩, ⟨.ofString "red", 7⟩, ⟨.ofString "fox", 2⟩, ⟨.ofString "red", 4294967295⟩,
  ⟨.ofString "red", 0⟩]

/-- Documents with fields that are not registered, registered later, refused or not looked up; some
have no tokens, and some are replaced, or removed twice. -/
def unruly : List Operation := [
  .insert ((Document.ofKey "a").withTokens 0 tangledTokens),
  .addField ⟨"title", .text, ⟨true, true, true⟩⟩,
  .insert (((Document.ofKey "b").withTokens 0 tangledTokens).withTokens 9 tangledTokens),
  .addField ⟨"title", .text, ⟨false, false, false⟩⟩,
  .addField ⟨"link", .plain, ⟨false, true, false⟩⟩,
  .insert (((Document.ofKey "b").withTokens 0 []).withTokens 1 tangledTokens),
  .insert ((Document.ofKey "a").withTokens 0 tangledTokens),
  .erase "b",
  .erase "b"]

theorem unruly_never_fails : unruly.length + (unruly.map Operation.tokenCount).sum < 2 ^ 62 ∧
    ∃ index, run .classic unruly = .ok index ∧
      ∃ found why, index.score .smoothed (.phrase "title" tangledTokens 3 1.0) 3 = .ok found ∧
        index.explain .smoothed (.phrase "title" tangledTokens 3 1.0) 3 = .ok why := by
  have room : unruly.length + (unruly.map Operation.tokenCount).sum < 2 ^ 62 := by decide +kernel
  obtain ⟨index, reached, -, answered⟩ := never_fails .classic room
  exact ⟨room, index, reached, (answered .smoothed (.phrase "title" tangledTokens 3 1.0)).1 3⟩

end Index

end Relevance
