import Mathlib.Data.List.Perm.Subperm
import Mathlib.Logic.Relator
import Relevance.Proofs.Query.Explaining
import Relevance.Proofs.Query.Searching

set_option autoImplicit false

namespace Relevance

def Label.atDoc (doc : DocId) : Label → Label
  | .fieldNorm _ => .fieldNorm doc
  | .fieldWeight _ => .fieldWeight doc
  | .score _ freq => .score doc freq
  | .weight clause _ similarity => .weight clause doc similarity
  | label => label

namespace Explanation

mutual

def atDoc (doc : DocId) : Explanation → Explanation
  | node value label isMatch details => node value (label.atDoc doc) isMatch (atDocAll doc details)

def atDocAll (doc : DocId) : List Explanation → List Explanation
  | [] => []
  | e :: rest => e.atDoc doc :: atDocAll doc rest

end

variable (doc : DocId)

theorem atDocAll_eq_map (details : List Explanation) :
    atDocAll doc details = details.map (·.atDoc doc) := by
  induction details with
  | nil => rfl
  | cons e rest ih => rw [atDocAll, ih, List.map_cons]

@[simp] theorem value_atDoc (e : Explanation) : (e.atDoc doc).value = e.value := by
  cases e
  rw [atDoc, value, value]

@[simp] theorem isMatch_atDoc (e : Explanation) : (e.atDoc doc).isMatch = e.isMatch := by
  cases e
  rw [atDoc, isMatch, isMatch]

@[simp] theorem atDoc_matched (value : Float32) (label : Label) (details : List Explanation) :
    (matched value label details).atDoc doc =
      matched value (label.atDoc doc) (details.map (·.atDoc doc)) := by
  rw [matched, atDoc, atDocAll_eq_map, matched]

@[simp] theorem atDoc_leaf (value : Float32) (label : Label) :
    (leaf value label).atDoc doc = leaf value (label.atDoc doc) := by
  rw [leaf, atDoc_matched, List.map_nil, leaf]

@[simp] theorem atDoc_noMatch (label : Label) (details : List Explanation) :
    (noMatch label details).atDoc doc =
      noMatch (label.atDoc doc) (details.map (·.atDoc doc)) := by
  rw [noMatch, atDoc, atDocAll_eq_map, noMatch]

end Explanation

namespace Plan

open Explanation

variable (doc : DocId)

theorem filter_isMatch_atDoc (parts : List Explanation) :
    (parts.map (·.atDoc doc)).filter isMatch = (parts.filter isMatch).map (·.atDoc doc) := by
  rw [List.filter_map]
  congr 1
  exact List.filter_congr fun part _ => isMatch_atDoc doc part

theorem sumValues_atDoc (details : List Explanation) :
    sumValues (details.map (·.atDoc doc)) = sumValues details := by
  simp only [sumValues, List.foldl_map, value_atDoc]

theorem explainAll_atDoc (parts : List Explanation) :
    explainAll (parts.map (·.atDoc doc)) = (explainAll parts).atDoc doc := by
  unfold explainAll
  rw [List.all_map, sumValues_atDoc]
  simp only [Function.comp_def, isMatch_atDoc]
  split
  · rw [atDoc_matched]
    rfl
  · rw [atDoc_noMatch, List.map_map, List.map_map]
    congr 2
    funext part
    simp only [Function.comp_apply, isMatch_atDoc]
    split
    · rfl
    · rw [atDoc_noMatch]
      rfl

theorem explainAny_atDoc (parts : List Explanation) :
    explainAny (parts.map (·.atDoc doc)) = (explainAny parts).atDoc doc := by
  unfold explainAny
  simp only [filter_isMatch_atDoc, sumValues_atDoc, List.isEmpty_map, List.length_map]
  split
  · rfl
  · split <;> simp [Label.atDoc]

end Plan

namespace ClauseWeight

/-- The rarity in a weight is not that of a single document. -/
def Common (weight : ClauseWeight) : Prop :=
  ∀ doc, weight.idf.atDoc doc = weight.idf

variable {similarity : Similarity} {field : FieldStatistics}

theorem atDoc_explainIdf {term : TermStatistics} {idf : Explanation}
    (success : similarity.explainIdf field term = .ok idf) (doc : DocId) : idf.atDoc doc = idf := by
  obtain ⟨value, -, done⟩ := Fault.bind_eq_ok_iff.mp success
  cases done
  rw [Explanation.atDoc_leaf]
  rfl

theorem common_of_clauseWeight {terms : List TermStatistics} {weight : ClauseWeight}
    (success : similarity.clauseWeight field terms = .ok weight) : weight.Common := by
  unfold Similarity.clauseWeight at success
  simp only at success
  intro doc
  split at success
  · obtain ⟨idf, explained, done⟩ := Fault.bind_eq_ok_iff.mp success
    cases done
    exact atDoc_explainIdf explained doc
  · obtain ⟨idf, explained, done⟩ := Fault.bind_eq_ok_iff.mp success
    cases done
    obtain ⟨details, each, done⟩ := Fault.bind_eq_ok_iff.mp explained
    cases done
    change (Explanation.matched _ _ details).atDoc doc = _
    rw [Explanation.atDoc_matched]
    refine congrArg (Explanation.matched _ _) ?_
    refine (List.map_congr_left fun detail member => ?_).trans details.map_id
    obtain ⟨term, -, made⟩ := Fault.exists_of_mapM_eq_ok each member
    exact atDoc_explainIdf made doc

end ClauseWeight

theorem Index.common_of_plan {index : Index} {similarity : Similarity} {query : Query} {plan : Plan}
    (planned : index.plan similarity query = .ok plan) :
    ∀ clause ∈ plan.clauses, clause.weight.Common := by
  obtain ⟨bound, success, done⟩ := Fault.bind_eq_ok_iff.mp planned
  cases done
  rw [Plan.clauses_normalize, List.forall_mem_map]
  refine Plan.forall_clauses_of_ofQuery (fun _ _ _ _ clause made => ?_) success
  obtain ⟨weight, weighed, done⟩ := Fault.bind_eq_ok_iff.mp made
  cases done
  -- neither the boost nor the query norm touches the rarity
  have common : weight.Common := ClauseWeight.common_of_clauseWeight weighed
  exact common

namespace Index

structure SameWeights (left right : Index) : Prop where
  schema_eq : left.schema = right.schema
  termStatistics_eq : ∀ field term,
    left.termStatistics field term = right.termStatistics field term
  effectiveDocCount_eq : ∀ field, (left.fieldStatistics field).effectiveDocCount =
    (right.fieldStatistics field).effectiveDocCount

/-- Two indexes read the same, with documents paired up. -/
structure Alike (left right : Index) (pair : DocId → DocId → Prop) : Prop
    extends SameWeights left right where
  unique : Relator.BiUnique pair
  positions_eq : ∀ {doc twin}, pair doc twin → ∀ field term,
    left.positions doc field term = right.positions twin field term
  norm_eq : ∀ {doc twin}, pair doc twin → ∀ field,
    (left.norms? field).map (·.norm doc) = (right.norms? field).map (·.norm twin)
  listed_iff : ∀ {doc twin}, pair doc twin → ∀ field term,
    doc ∈ (left.docsWithTerm? field term).getD [] ↔ twin ∈ (right.docsWithTerm? field term).getD []
  exists_twin : ∀ {doc field term}, doc ∈ (left.docsWithTerm? field term).getD [] →
    ∃ twin, pair doc twin
  exists_doc : ∀ {twin field term}, twin ∈ (right.docsWithTerm? field term).getD [] →
    ∃ doc, pair doc twin

variable {left right : Index} {similarity : Similarity}

theorem fieldStatistics_field (index : Index) (field : FieldId) :
    (index.fieldStatistics field).field = ((index.schema.get? field).map Field.name).getD "" := by
  unfold fieldStatistics
  split <;> rfl

namespace SameWeights

theorem clauseWeight_eq (same : SameWeights left right) (field : FieldId)
    (terms : List TermStatistics) : similarity.clauseWeight (left.fieldStatistics field) terms =
      similarity.clauseWeight (right.fieldStatistics field) terms := by
  have rarity : similarity.explainIdf (left.fieldStatistics field) =
      similarity.explainIdf (right.fieldStatistics field) := by
    funext term
    simp only [Similarity.explainIdf, same.effectiveDocCount_eq field]
  simp only [Similarity.clauseWeight, Similarity.explainIdfSum, rarity, fieldStatistics_field,
    same.schema_eq]

theorem ofMatcher_eq (same : SameWeights left right) :
    Clause.ofMatcher left similarity = Clause.ofMatcher right similarity := by
  funext field matcher boost description
  have statistics : left.termStatistics field = right.termStatistics field :=
    funext (same.termStatistics_eq field)
  simp only [Clause.ofMatcher, same.clauseWeight_eq, statistics]

theorem ofQueries_eq {queries : List Query}
    (each : ∀ query ∈ queries,
      Plan.ofQuery left similarity query = Plan.ofQuery right similarity query) :
    Plan.ofQueries left similarity queries = Plan.ofQueries right similarity queries := by
  induction queries with
  | nil => rfl
  | cons query rest ih =>
    rw [Plan.ofQueries, Plan.ofQueries, each query List.mem_cons_self,
      ih fun later member => each later (List.mem_cons_of_mem _ member)]

theorem ofQuery_eq (same : SameWeights left right) (query : Query) :
    Plan.ofQuery left similarity query = Plan.ofQuery right similarity query := by
  induction query with
  | matchNone => rfl
  | term field wanted boost => rw [Plan.ofQuery, Plan.ofQuery, same.schema_eq, same.ofMatcher_eq]
  | phrase field tokens slop boost =>
    rw [Plan.ofQuery, Plan.ofQuery, same.schema_eq, same.ofMatcher_eq]
  | conjunction queries ih => rw [Plan.ofQuery, Plan.ofQuery, ofQueries_eq ih]
  | disjunction queries ih => rw [Plan.ofQuery, Plan.ofQuery, ofQueries_eq ih]

/-- A query is bound to both indexes in the same way, with the same weights. -/
theorem plan_eq (same : SameWeights left right) (similarity : Similarity) (query : Query) :
    left.plan similarity query = right.plan similarity query := by
  rw [Index.plan, Index.plan, same.ofQuery_eq]

end SameWeights

namespace Alike

variable {pair : DocId → DocId → Prop} {doc twin : DocId} {clause : Clause} {plan : Plan}

theorem symm (alike : left.Alike right pair) : right.Alike left (flip pair) where
  schema_eq := alike.schema_eq.symm
  termStatistics_eq field term := (alike.termStatistics_eq field term).symm
  effectiveDocCount_eq field := (alike.effectiveDocCount_eq field).symm
  unique := ⟨fun _ _ _ first second => alike.unique.2 first second,
    fun _ _ _ first second => alike.unique.1 first second⟩
  positions_eq paired field term := (alike.positions_eq paired field term).symm
  norm_eq paired field := (alike.norm_eq paired field).symm
  listed_iff paired field term := (alike.listed_iff paired field term).symm
  exists_twin := alike.exists_doc
  exists_doc := alike.exists_twin

theorem freq_eq (alike : left.Alike right pair) (paired : pair doc twin) (clause : Clause) :
    clause.freq left doc = clause.freq right twin := by
  have positions : left.positions doc clause.field = right.positions twin clause.field :=
    funext (alike.positions_eq paired clause.field)
  simp only [Clause.freq, positions]

theorem components_eq (alike : left.Alike right pair) (paired : pair doc twin) (clause : Clause)
    (freq : Float32) : (clause.scorer left similarity).components doc freq =
      (clause.scorer right similarity).components twin freq := by
  simp only [Clause.scorer, Scorer.components, alike.norm_eq paired]

theorem clauseScore_eq (alike : left.Alike right pair) (paired : pair doc twin) (clause : Clause) :
    clause.score left similarity doc = clause.score right similarity twin := by
  simp only [Clause.score, Scorer.score, alike.freq_eq paired, alike.components_eq paired]

theorem scoreAll_eq {plans : List Plan}
    (each : ∀ plan ∈ plans, plan.score left similarity doc = plan.score right similarity twin)
    (sum : Float32) : Plan.scoreAll left similarity doc sum plans =
      Plan.scoreAll right similarity twin sum plans := by
  induction plans generalizing sum with
  | nil => rfl
  | cons plan rest ih =>
    have later := ih fun inner member => each inner (List.mem_cons_of_mem _ member)
    simp only [Plan.scoreAll, each plan List.mem_cons_self, later]

theorem scoreAny_eq {plans : List Plan}
    (each : ∀ plan ∈ plans, plan.score left similarity doc = plan.score right similarity twin)
    (sum : Float32) (matched : Nat) : Plan.scoreAny left similarity doc sum matched plans =
      Plan.scoreAny right similarity twin sum matched plans := by
  induction plans generalizing sum matched with
  | nil => rfl
  | cons plan rest ih =>
    have later := ih fun inner member => each inner (List.mem_cons_of_mem _ member)
    simp only [Plan.scoreAny, each plan List.mem_cons_self, later]

/-- Paired documents have the same score, or fail to have one alike. -/
theorem planScore_eq (alike : left.Alike right pair) (paired : pair doc twin) (plan : Plan) :
    plan.score left similarity doc = plan.score right similarity twin := by
  induction plan with
  | matchNone => rfl
  | leaf clause => exact alike.clauseScore_eq paired clause
  | conjunction plans ih => rw [Plan.score, Plan.score, scoreAll_eq ih]
  | disjunction plans ih => rw [Plan.score, Plan.score, scoreAny_eq ih]

theorem explainField_eq (alike : left.Alike right pair) (paired : pair doc twin)
    (common : clause.weight.Common) {freq : Explanation} (same : freq.atDoc twin = freq) :
    (clause.scorer right similarity).explainField twin freq =
      ((clause.scorer left similarity).explainField doc freq).atDoc twin := by
  have rarity : (clause.scorer left similarity).weight.idf.atDoc twin = clause.weight.idf :=
    common twin
  simp only [Scorer.explainField, Explanation.atDoc_matched, Explanation.atDoc_leaf, Label.atDoc,
    List.map_cons, List.map_nil, alike.components_eq paired, same, rarity]
  rfl

theorem explainQuery_eq (common : clause.weight.Common) (twin : DocId) :
    (clause.scorer right similarity).explainQuery =
      (clause.scorer left similarity).explainQuery.atDoc twin := by
  have rarity : (clause.scorer left similarity).weight.idf.atDoc twin = clause.weight.idf :=
    common twin
  simp only [Scorer.explainQuery, Explanation.atDoc_matched, List.map_append, List.map_cons,
    List.map_nil, rarity, apply_ite (List.map (Explanation.atDoc twin)), Explanation.atDoc_leaf]
  rfl

theorem scorerExplain_eq (alike : left.Alike right pair) (paired : pair doc twin)
    (common : clause.weight.Common) {freq : Explanation} (same : freq.atDoc twin = freq) :
    (clause.scorer right similarity).explain twin freq =
      ((clause.scorer left similarity).explain doc freq).atDoc twin := by
  have query : (clause.scorer right similarity).explainQuery =
      (clause.scorer left similarity).explainQuery.atDoc twin := explainQuery_eq common twin
  simp only [Scorer.explain, Scorer.score, query, alike.explainField_eq paired common same,
    alike.components_eq paired, Explanation.value_atDoc]
  split
  · rfl
  · rw [Explanation.atDoc_matched]
    rfl

theorem clauseExplain_eq (alike : left.Alike right pair) (paired : pair doc twin)
    (common : clause.weight.Common) : clause.explain right similarity twin =
      Explanation.atDoc twin <$> clause.explain left similarity doc := by
  simp only [Clause.explain, alike.freq_eq paired]
  cases clause.freq right twin with
  | error reason => rfl
  | ok freq =>
    simp only [Fault.ok_bind]
    split
    · rfl
    · generalize labelled : (Explanation.leaf freq _) = count
      have same : count.atDoc twin = count := by
        rw [← labelled, Explanation.atDoc_leaf]
        cases clause.matcher <;> rfl
      simp only [alike.scorerExplain_eq paired common same, Fault.pure_eq_ok, Fault.map_ok,
        Explanation.atDoc_matched, Explanation.value_atDoc, Label.atDoc, List.map_cons,
        List.map_nil]

theorem explainParts_eq {plans : List Plan}
    (each : ∀ plan ∈ plans, plan.explain right similarity twin =
      Explanation.atDoc twin <$> plan.explain left similarity doc) :
    Plan.explainParts right similarity twin plans =
      List.map (·.atDoc twin) <$> Plan.explainParts left similarity doc plans := by
  induction plans with
  | nil => rfl
  | cons plan rest ih =>
    rw [Plan.explainParts, Plan.explainParts, each plan List.mem_cons_self,
      ih fun inner member => each inner (List.mem_cons_of_mem _ member)]
    cases plan.explain left similarity doc with
    | error reason => rfl
    | ok part => cases Plan.explainParts left similarity doc rest <;> rfl

/-- Paired documents are explained by the same tree, but for their numbers. -/
theorem planExplain_eq (alike : left.Alike right pair) (paired : pair doc twin)
    (common : ∀ clause ∈ plan.clauses, clause.weight.Common) :
    plan.explain right similarity twin =
      Explanation.atDoc twin <$> plan.explain left similarity doc := by
  induction plan with
  | matchNone => rfl
  | leaf clause =>
    rw [Plan.clauses, List.forall_mem_singleton] at common
    exact alike.clauseExplain_eq paired common
  | conjunction plans ih =>
    rw [Plan.forall_clauses_conjunction] at common
    have each := explainParts_eq fun plan member => ih plan member (common plan member)
    rw [Plan.explain, Plan.explain, each]
    cases Plan.explainParts left similarity doc plans with
    | error reason => rfl
    | ok parts => exact congrArg Except.ok (Plan.explainAll_atDoc twin parts)
  | disjunction plans ih =>
    rw [Plan.forall_clauses_disjunction] at common
    have each := explainParts_eq fun plan member => ih plan member (common plan member)
    rw [Plan.explain, Plan.explain, each]
    cases Plan.explainParts left similarity doc plans with
    | error reason => rfl
    | ok parts => exact congrArg Except.ok (Plan.explainAny_atDoc twin parts)

theorem mem_clauseCandidates_iff (alike : left.Alike right pair) (paired : pair doc twin) :
    doc ∈ clause.candidates left ↔ twin ∈ clause.candidates right := by
  simp only [Clause.mem_candidates_iff_listed, alike.listed_iff paired]

/-- Of paired documents both are candidates or neither. -/
theorem mem_candidates_iff (alike : left.Alike right pair) (paired : pair doc twin) :
    doc ∈ plan.candidates left ↔ twin ∈ plan.candidates right := by
  induction plan with
  | matchNone => simp [Plan.candidates]
  | leaf clause => exact alike.mem_clauseCandidates_iff paired
  | conjunction plans ih =>
    cases plans with
    | nil => simp [Plan.candidates]
    | cons plan rest =>
      rw [Plan.candidates, Plan.candidates, Plan.mem_commonCandidates, Plan.mem_commonCandidates,
        ih plan List.mem_cons_self]
      exact and_congr_right fun _ => forall₂_congr fun inner member =>
        ih inner (List.mem_cons_of_mem _ member)
  | disjunction plans ih =>
    rw [Plan.candidates, Plan.candidates, Plan.mem_allCandidates, Plan.mem_allCandidates]
    exact exists_congr fun inner => and_congr_right fun member => ih inner member

/-- Every candidate has its pair. -/
theorem exists_twin_of_candidate (alike : left.Alike right pair)
    (candidate : doc ∈ plan.candidates left) : ∃ twin, pair doc twin := by
  induction plan with
  | matchNone =>
    rw [Plan.candidates] at candidate
    exact absurd candidate Std.ExtTreeSet.not_mem_empty
  | leaf clause =>
    rw [Plan.candidates, Clause.mem_candidates_iff_listed] at candidate
    obtain ⟨term, member⟩ := List.exists_mem_of_ne_nil _ candidate.1
    exact alike.exists_twin (candidate.2 term member)
  | conjunction plans ih =>
    cases plans with
    | nil =>
      rw [Plan.candidates] at candidate
      exact absurd candidate Std.ExtTreeSet.not_mem_empty
    | cons plan rest =>
      rw [Plan.candidates, Plan.mem_commonCandidates] at candidate
      exact ih plan List.mem_cons_self candidate.1
  | disjunction plans ih =>
    rw [Plan.candidates, Plan.mem_allCandidates] at candidate
    obtain ⟨plan, member, inside⟩ := candidate
    exact ih plan member inside

/-- Of paired documents both match or neither. -/
theorem matches_iff (alike : left.Alike right pair) (paired : pair doc twin)
    (placed : ∀ clause ∈ plan.clauses, clause.matcher.Placed) :
    plan.Matches left doc ↔ plan.Matches right twin := by
  obtain ⟨found, scored, matched⟩ : ∃ found, plan.score left .classic doc = .ok found ∧
    (found.isSome ↔ plan.Matches left doc) := Plan.exists_score placed doc
  obtain ⟨value, valued, holds⟩ : ∃ found, plan.score right .classic twin = .ok found ∧
    (found.isSome ↔ plan.Matches right twin) := Plan.exists_score placed twin
  rw [alike.planScore_eq paired, valued] at scored
  cases scored
  rw [← matched, holds]

theorem hits_length_le (alike : left.Alike right pair)
    (placed : ∀ clause ∈ plan.clauses, clause.matcher.Placed) {hits others : List ScoredDoc}
    (found : plan.hits left similarity = .ok hits)
    (twins : plan.hits right similarity = .ok others) : hits.length ≤ others.length := by
  obtain ⟨_, same, ascending, mem_hits_iff⟩ := Plan.exists_hits placed
  cases found.symm.trans same
  obtain ⟨_, same, -, mem_others_iff⟩ := Plan.exists_hits placed
  cases twins.symm.trans same
  have each : ∀ doc ∈ hits.map ScoredDoc.doc, ∃ twin ∈ others.map ScoredDoc.doc, pair doc twin := by
    intro doc member
    obtain ⟨candidate, matched⟩ := (mem_hits_iff doc).mp member
    obtain ⟨twin, paired⟩ := alike.exists_twin_of_candidate candidate
    exact ⟨twin, (mem_others_iff twin).mpr ⟨(alike.mem_candidates_iff paired).mp candidate,
      (alike.matches_iff paired placed).mp matched⟩, paired⟩
  choose! twin member paired using each
  have distinct : ((hits.map ScoredDoc.doc).map twin).Nodup := by
    refine List.Nodup.map_on (fun doc first other second same => ?_) (ascending.imp Nat.ne_of_lt)
    exact alike.unique.1 (paired doc first) (same ▸ paired other second)
  have inside : (hits.map ScoredDoc.doc).map twin ⊆ others.map ScoredDoc.doc :=
    List.forall_mem_map.mpr member
  simpa only [List.length_map] using (List.subperm_of_subset distinct inside).length_le

/-- Paired documents have the same score. -/
theorem score_eq (alike : left.Alike right pair) (paired : pair doc twin) (query : Query) :
    left.score similarity query doc = right.score similarity query twin := by
  rw [score, score, alike.plan_eq]
  simp only [alike.planScore_eq paired]

/-- Paired documents have the same explanation, but for their numbers. -/
theorem explain_eq (alike : left.Alike right pair) (paired : pair doc twin) (query : Query) :
    right.explain similarity query twin =
      Explanation.atDoc twin <$> left.explain similarity query doc := by
  rw [explain, explain, alike.plan_eq]
  cases planned : right.plan similarity query with
  | error reason => rfl
  | ok plan => exact alike.planExplain_eq paired (common_of_plan planned)

/-- A search finds as many documents in one index as in the other. -/
theorem count_eq (alike : left.Alike right pair) (query : Query) :
    left.search similarity query .count 0 = right.search similarity query .count 0 := by
  have same : left.plan similarity query = right.plan similarity query :=
    alike.plan_eq similarity query
  cases planned : right.plan similarity query with
  | error reason =>
    rw [(plan_eq_error (same.trans planned)).2, (plan_eq_error planned).2]
  | ok plan =>
    have placed := (binds_of_plan planned).placed
    obtain ⟨hits, found, -⟩ := Plan.exists_hits placed
    obtain ⟨others, twins, -⟩ := Plan.exists_hits placed
    rw [search_eq_ok (same.trans planned) found, search_eq_ok planned twins,
      Collector.collectAll_count, Collector.collectAll_count,
      Nat.le_antisymm (alike.hits_length_le placed found twins)
        (alike.symm.hits_length_le placed twins found)]

end Alike

end Index

end Relevance
