import Relevance.Proofs.Query.Matching

set_option autoImplicit false

namespace Relevance

/-- What a collector makes of hits that are handed to it one after another. -/
def Collector.collectAll {α : Type} (collector : Collector α) (hits : List ScoredDoc)
    (start : α) : α :=
  hits.foldl (fun state hit =>
    collector.collect state ⟨hit.doc, if collector.needsScore then some hit.score else none⟩) start

theorem Collector.collectAll_count (hits : List ScoredDoc) (start : Nat) :
    count.collectAll hits start = start + hits.length := by
  induction hits generalizing start with
  | nil => rfl
  | cons hit rest ih =>
    rw [collectAll, List.foldl_cons, ← collectAll, ih, List.length_cons, Nat.add_comm rest.length,
      ← Nat.add_assoc]
    rfl

namespace Index

variable {index : Index} {similarity : Similarity} {query : Query}

theorem search_eq_ok {plan : Plan} {hits : List ScoredDoc}
    (planned : index.plan similarity query = .ok plan)
    (found : plan.hits index similarity = .ok hits) {α : Type} (collector : Collector α)
    (start : α) : index.search similarity query collector start =
      .ok (collector.collectAll hits start) := by
  rw [search, planned, Fault.ok_bind, found, Fault.ok_bind]
  rfl

theorem plan_eq_error {reason : Fault} (failed : index.plan similarity query = .error reason) :
    (∀ doc, index.score similarity query doc = .error reason) ∧
      ∀ {α : Type} (collector : Collector α) (start : α),
        index.search similarity query collector start = .error reason := by
  constructor
  · intro doc
    rw [score, failed, Fault.error_bind]
  · intro α collector start
    rw [search, failed, Fault.error_bind]

/-- A search hands its collector the documents that have a score, with that score, each once and in
ascending order; a document that is not there has none. It fails together with scoring, and only if
the numbers given out leave no room for the counts. -/
theorem search_agrees_with_score {weighed : Similarity} {operations : List Operation}
    (reached : run weighed operations = .ok index) (similarity : Similarity) (query : Query)
    (filled : .conjunction [] ∉ query.subqueries) :
    (∃ hits : List ScoredDoc,
      (∀ {α : Type} (collector : Collector α) (start : α),
        index.search similarity query collector start = .ok (collector.collectAll hits start)) ∧
      (hits.map ScoredDoc.doc).Pairwise (· < ·) ∧
      ∀ doc, ∃ found, index.score similarity query doc = .ok found ∧
        (∀ score, found = some score ↔ ⟨doc, score⟩ ∈ hits) ∧
        (index.document? doc = none → found = none)) ∨
    UInt64.size ≤ index.maxDoc + 2 ∧
      (∀ doc, index.score similarity query doc = .error .additionOverflow) ∧
      ∀ {α : Type} (collector : Collector α) (start : α),
        index.search similarity query collector start = .error .additionOverflow := by
  have sound : index.Sound := sound_of_run reached
  rcases sound.plan_cases similarity query with ⟨plan, planned, binds⟩ | ⟨failed, overflow⟩
  case inr => exact Or.inr ⟨overflow, plan_eq_error failed⟩
  left
  have each : ∀ doc, ∃ found, plan.score index similarity doc = .ok found ∧
      (found.isSome ↔ plan.Matches index doc) := Plan.exists_score binds.placed
  choose found scored matched using each
  have candidate : ∀ doc score, found doc = some score → doc ∈ plan.candidates index := by
    intro doc score has
    exact binds.mem_candidates sound filled ((matched doc).mp (by rw [has]; rfl))
  refine ⟨(plan.candidates index).toList.filterMap fun doc =>
    (found doc).map fun score => ⟨doc, score⟩, ?_, ?_, ?_⟩
  · intro α collector start
    rw [search, planned, Fault.ok_bind, Plan.hits_eq_ok scored, Fault.ok_bind]
    rfl
  · rw [List.pairwise_map, List.pairwise_filterMap]
    refine Std.ExtTreeSet.ordered_toList.imp fun {doc other} less hit same next later => ?_
    obtain ⟨score, -, rfl⟩ := Option.map_eq_some_iff.mp same
    obtain ⟨amount, -, rfl⟩ := Option.map_eq_some_iff.mp later
    exact Nat.compare_eq_lt.mp less
  · intro doc
    refine ⟨found doc, ?_, fun score => ?_, fun gone => ?_⟩
    · rw [Index.score, planned, Fault.ok_bind, scored]
    · rw [List.mem_filterMap]
      constructor
      · intro has
        exact ⟨doc, Std.ExtTreeSet.mem_toList.mpr (candidate doc score has), by rw [has]; rfl⟩
      · rintro ⟨other, -, same⟩
        obtain ⟨amount, has, same⟩ := Option.map_eq_some_iff.mp same
        cases same
        exact has
    · cases has : found doc with
      | none => rfl
      | some score =>
        have there := Plan.isSome_document_of_candidate sound (candidate doc score has)
        rw [gone] at there
        cases there

/-- A term, or two of its documents' terms at once and in a phrase. -/
def shelfQuery : Query := .disjunction [
  .ofTerm "title" (.ofString "fox"),
  .conjunction [
    .ofTerm "title" (.ofString "red"),
    .phrase "title" [⟨.ofString "red", 2⟩, ⟨.ofString "hen", 6⟩] 0 2.0]]

theorem filled_shelfQuery : .conjunction [] ∉ shelfQuery.subqueries := by
  simp [shelfQuery, Query.ofTerm, Query.subqueries, Query.subqueriesAll]

theorem shelf_search_agrees_with_score : ∃ index hits, run .smoothed shelf = .ok index ∧
    index.search .classic shelfQuery (.ranking 10) [] =
      .ok ((Collector.ranking 10).collectAll hits []) ∧
    ∀ doc, ∃ found, index.score .classic shelfQuery doc = .ok found ∧
      ∀ score, found = some score ↔ ⟨doc, score⟩ ∈ hits := by
  obtain ⟨index, reached, three, -⟩ := exists_run_shelf
  rcases search_agrees_with_score reached .classic shelfQuery filled_shelfQuery with
    ⟨hits, searched, -, scored⟩ | ⟨overflow, -⟩
  · refine ⟨index, hits, reached, searched _ _, fun doc => ?_⟩
    obtain ⟨found, score, same, -⟩ := scored doc
    exact ⟨found, score, same⟩
  · rw [three] at overflow
    exact absurd overflow (by decide)

end Index

end Relevance
