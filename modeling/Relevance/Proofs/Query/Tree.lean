import Mathlib.Data.List.Forall2
import Relevance.Proofs.Fault
import Relevance.Query.Search

set_option autoImplicit false

namespace Relevance

@[elab_as_elim, induction_eliminator]
theorem Query.induct {motive : Query → Prop} (matchNone : motive .matchNone)
    (term : ∀ field wanted boost, motive (.term field wanted boost))
    (phrase : ∀ field tokens slop boost, motive (.phrase field tokens slop boost))
    (conjunction : ∀ queries, (∀ query ∈ queries, motive query) → motive (.conjunction queries))
    (disjunction : ∀ queries, (∀ query ∈ queries, motive query) → motive (.disjunction queries))
    (query : Query) : motive query :=
  @Query.rec motive (fun queries => ∀ query ∈ queries, motive query)
    matchNone term phrase conjunction disjunction (fun _ member => nomatch member)
    (fun _ _ first later _ member => by
      rcases List.mem_cons.mp member with rfl | inside
      · exact first
      · exact later _ inside)
    query

@[elab_as_elim, induction_eliminator]
theorem Plan.induct {motive : Plan → Prop} (matchNone : motive .matchNone)
    (leaf : ∀ clause, motive (.leaf clause))
    (conjunction : ∀ plans, (∀ plan ∈ plans, motive plan) → motive (.conjunction plans))
    (disjunction : ∀ plans, (∀ plan ∈ plans, motive plan) → motive (.disjunction plans))
    (plan : Plan) : motive plan :=
  @Plan.rec motive (fun plans => ∀ plan ∈ plans, motive plan)
    matchNone leaf conjunction disjunction (fun _ member => nomatch member)
    (fun _ _ first later _ member => by
      rcases List.mem_cons.mp member with rfl | inside
      · exact first
      · exact later _ inside)
    plan

namespace Query

mutual

def subqueries : Query → List Query
  | .matchNone => [.matchNone]
  | .term field wanted boost => [.term field wanted boost]
  | .phrase field tokens slop boost => [.phrase field tokens slop boost]
  | .conjunction queries => .conjunction queries :: subqueriesAll queries
  | .disjunction queries => .disjunction queries :: subqueriesAll queries

def subqueriesAll : List Query → List Query
  | [] => []
  | query :: rest => query.subqueries ++ subqueriesAll rest

end

theorem mem_subqueriesAll {inner : Query} {queries : List Query} :
    inner ∈ subqueriesAll queries ↔ ∃ query ∈ queries, inner ∈ query.subqueries := by
  induction queries with
  | nil => simp [subqueriesAll]
  | cons query rest ih => simp [subqueriesAll, ih]

theorem mem_subqueries_conjunction {query inner : Query} {queries : List Query}
    (member : query ∈ queries) (inside : inner ∈ query.subqueries) :
    inner ∈ (Query.conjunction queries).subqueries := by
  rw [subqueries]
  exact List.mem_cons_of_mem _ (mem_subqueriesAll.mpr ⟨query, member, inside⟩)

theorem mem_subqueries_disjunction {query inner : Query} {queries : List Query}
    (member : query ∈ queries) (inside : inner ∈ query.subqueries) :
    inner ∈ (Query.disjunction queries).subqueries := by
  rw [subqueries]
  exact List.mem_cons_of_mem _ (mem_subqueriesAll.mpr ⟨query, member, inside⟩)

theorem mem_subqueries_self (query : Query) : query ∈ query.subqueries := by
  cases query <;> rw [subqueries] <;> exact List.mem_cons_self

theorem scaleBoostAll_eq_map (factor : Float32) (queries : List Query) :
    scaleBoostAll factor queries = queries.map (·.scaleBoost factor) := by
  induction queries with
  | nil => rfl
  | cons query rest ih => rw [scaleBoostAll, ih, List.map_cons]

end Query

namespace Plan

theorem normalizeAll_eq_map (queryNorm : Float32) (plans : List Plan) :
    normalizeAll queryNorm plans = plans.map (·.normalize queryNorm) := by
  induction plans with
  | nil => rfl
  | cons plan rest ih => rw [normalizeAll, ih, List.map_cons]

theorem clausesAll_eq_flatMap (plans : List Plan) : clausesAll plans = plans.flatMap clauses := by
  induction plans with
  | nil => rfl
  | cons plan rest ih => rw [clausesAll, ih, List.flatMap_cons]

theorem mem_clausesAll {clause : Clause} {plans : List Plan} :
    clause ∈ clausesAll plans ↔ ∃ plan ∈ plans, clause ∈ plan.clauses := by
  rw [clausesAll_eq_flatMap, List.mem_flatMap]

/-- Normalising changes the weight of every clause and nothing else. -/
theorem clauses_normalize (plan : Plan) (queryNorm : Float32) :
    (plan.normalize queryNorm).clauses = plan.clauses.map fun clause =>
      { clause with weight := clause.weight.normalize queryNorm clause.boost } := by
  induction plan with
  | matchNone => rfl
  | leaf clause => rfl
  | conjunction plans ih =>
    rw [normalize, clauses, clauses, normalizeAll_eq_map, clausesAll_eq_flatMap,
      clausesAll_eq_flatMap, List.flatMap_map, List.map_flatMap]
    exact List.flatMap_congr ih
  | disjunction plans ih =>
    rw [normalize, clauses, clauses, normalizeAll_eq_map, clausesAll_eq_flatMap,
      clausesAll_eq_flatMap, List.flatMap_map, List.map_flatMap]
    exact List.flatMap_congr ih

/-- What is true of all clauses of a plan is what is true of the clauses of each part. -/
theorem forall_clauses_conjunction {holds : Clause → Prop} {plans : List Plan} :
    (∀ clause ∈ (conjunction plans).clauses, holds clause) ↔
      ∀ plan ∈ plans, ∀ clause ∈ plan.clauses, holds clause := by
  simp only [clauses, mem_clausesAll]
  exact ⟨fun all plan member clause inside => all clause ⟨plan, member, inside⟩,
    fun all clause ⟨plan, member, inside⟩ => all plan member clause inside⟩

theorem forall_clauses_disjunction {holds : Clause → Prop} {plans : List Plan} :
    (∀ clause ∈ (disjunction plans).clauses, holds clause) ↔
      ∀ plan ∈ plans, ∀ clause ∈ plan.clauses, holds clause := by
  rw [← forall_clauses_conjunction, clauses, clauses]

theorem ofQueries_eq_ok {index : Index} {similarity : Similarity} {queries : List Query}
    {plans : List Plan} (success : ofQueries index similarity queries = .ok plans) :
    List.Forall₂ (fun query plan => ofQuery index similarity query = .ok plan) queries plans := by
  induction queries generalizing plans with
  | nil =>
    cases success
    exact .nil
  | cons query rest ih =>
    simp only [ofQueries, Fault.bind_eq_ok_iff] at success
    obtain ⟨plan, first, others, later, done⟩ := success
    cases done
    exact .cons first (ih later)

theorem ofQueries_eq_error {index : Index} {similarity : Similarity} {queries : List Query}
    {reason : Fault} (failure : ofQueries index similarity queries = .error reason) :
    ∃ query ∈ queries, ofQuery index similarity query = .error reason := by
  induction queries with
  | nil => cases failure
  | cons query rest ih =>
    rw [ofQueries, Fault.bind_eq_error_iff] at failure
    rcases failure with failed | ⟨plan, -, failure⟩
    · exact ⟨query, List.mem_cons_self, failed⟩
    rw [Fault.bind_eq_error_iff] at failure
    rcases failure with failed | ⟨plans, -, failed⟩
    · obtain ⟨inner, member, reached⟩ := ih failed
      exact ⟨inner, List.mem_cons_of_mem _ member, reached⟩
    · cases failed

end Plan

end Relevance
