import Relevance.Proofs.Query.Boosting
import Relevance.Proofs.Query.Shape

set_option autoImplicit false

namespace Relevance

/-- What a clause looks for and what it is boosted by; all there is to it but the weight. -/
structure Target where
  field : FieldId
  matcher : Matcher
  boost : Float32
  description : String

def Clause.target (clause : Clause) : Target :=
  ⟨clause.field, clause.matcher, clause.boost, clause.description⟩

/-- What a term or phrase looks for among the fields of a schema; nothing in a field that is not
there, and nothing for a phrase without tokens. -/
def Query.target? (schema : Schema) : Query → Option Target
  | .term field wanted boost => (schema.find? field).map fun id =>
    ⟨id, .term wanted, boost, text (.term field wanted boost)⟩
  | .phrase field tokens slop boost => (schema.find? field).bind fun id =>
    (firstPosition? tokens).map fun first =>
      ⟨id, .ofPhrase tokens first slop, boost, text (.phrase field tokens slop boost)⟩
  | _ => none

/-- A clause under a query norm: it looks for the same as before, its boost and its rarity are kept,
and they and the norm make up its weight. -/
structure Clause.UnderNorm (queryNorm : Float32) (bound clause : Clause) : Prop where
  target_eq : clause.target = bound.target
  field_eq : clause.weight.field = bound.weight.field
  idf_eq : clause.weight.idf = bound.weight.idf
  queryNorm_eq : clause.weight.queryNorm = queryNorm
  boost_eq : clause.weight.boost = bound.boost
  queryWeight_eq :
    clause.weight.queryWeight = queryNorm * bound.boost * bound.weight.idf.value
  value_eq : clause.weight.value = clause.weight.queryWeight * bound.weight.idf.value

variable {index : Index} {similarity : Similarity}

theorem Clause.target_of_ofMatcher {field : FieldId} {matcher : Matcher} {boost : Float32}
    {description : String} {clause : Clause}
    (success : ofMatcher index similarity field matcher boost description = .ok clause) :
    clause.target = ⟨field, matcher, boost, description⟩ := by
  obtain ⟨weight, -, done⟩ := Fault.bind_eq_ok_iff.mp success
  cases done
  rfl

namespace Plan

/-- A norm replaces the one before it in every clause. -/
theorem normalize_normalize (plan : Plan) (first second : Float32) :
    (plan.normalize first).normalize second = plan.normalize second := by
  induction plan with
  | matchNone => rfl
  | leaf clause => rfl
  | conjunction plans ih =>
    simp only [normalize, normalizeAll_eq_map, List.map_map]
    exact congrArg conjunction (List.map_congr_left ih)
  | disjunction plans ih =>
    simp only [normalize, normalizeAll_eq_map, List.map_map]
    exact congrArg disjunction (List.map_congr_left ih)

/-- Of several norms only the last one is left. -/
theorem renormalize_append (plan : Plan) (earlier : List Float32) (last : Float32) :
    plan.renormalize (earlier ++ [last]) = plan.normalize last := by
  induction earlier generalizing plan with
  | nil => rfl
  | cons first rest ih =>
    calc plan.renormalize (first :: rest ++ [last])
        = (plan.normalize first).renormalize (rest ++ [last]) := rfl
      _ = (plan.normalize first).normalize last := ih _
      _ = plan.normalize last := plan.normalize_normalize first last

theorem underNorm_clauses_normalize (plan : Plan) (queryNorm : Float32) :
    List.Forall₂ (Clause.UnderNorm queryNorm) plan.clauses (plan.normalize queryNorm).clauses := by
  rw [clauses_normalize, List.forall₂_map_right_iff, List.forall₂_same]
  exact fun clause _ => ⟨rfl, rfl, rfl, rfl, rfl, rfl, rfl⟩

/-- If each part of a query is bound to its leaves, all parts together are bound to all leaves. -/
theorem targets_flatMap {schema : Schema} {queries : List Query} {plans : List Plan}
    (parts : List.Forall₂ (fun query plan =>
      plan.clauses.map Clause.target = query.leaves.filterMap (Query.target? schema))
      queries plans) :
    (plans.flatMap clauses).map Clause.target =
      (queries.flatMap Query.leaves).filterMap (Query.target? schema) := by
  induction parts with
  | nil => rfl
  | cons first _ ih =>
    rw [List.flatMap_cons, List.flatMap_cons, List.map_append, List.filterMap_append, first, ih]

/-- The clauses of a plan look for the terms and phrases of its query, in their order. -/
theorem targets_of_ofQuery {query : Query} {plan : Plan}
    (success : ofQuery index similarity query = .ok plan) :
    plan.clauses.map Clause.target = query.leaves.filterMap (Query.target? index.schema) := by
  induction query generalizing plan with
  | matchNone =>
    cases success
    rfl
  | term field wanted boost =>
    change _ = [Query.term field wanted boost].filterMap _
    rw [List.filterMap_cons, Query.target?]
    rw [ofQuery] at success
    split at success
    · rename_i unknown
      cases success
      rw [unknown]
      rfl
    · rename_i id known
      obtain ⟨clause, bound, done⟩ := Fault.bind_eq_ok_iff.mp success
      cases done
      rw [known, clauses, List.map_singleton, Clause.target_of_ofMatcher bound]
      rfl
  | phrase field tokens slop boost =>
    change _ = [Query.phrase field tokens slop boost].filterMap _
    rw [List.filterMap_cons, Query.target?]
    rw [ofQuery] at success
    split at success
    · rename_i unknown
      cases success
      rw [unknown]
      rfl
    · rename_i id known
      rw [known]
      simp only [Matcher.ofTokens?_eq_ok, Fault.ok_bind] at success
      cases least : firstPosition? tokens with
      | none =>
        rw [least] at success
        cases success
        rfl
      | some first =>
        simp only [least, Option.map_some, Fault.bind_eq_ok_iff] at success
        obtain ⟨clause, bound, done⟩ := success
        cases done
        rw [clauses, List.map_singleton, Clause.target_of_ofMatcher bound]
        rfl
  | conjunction queries ih =>
    rw [ofQuery, Fault.bind_eq_ok_iff] at success
    obtain ⟨plans, bound, done⟩ := success
    cases done
    rw [clauses, clausesAll_eq_flatMap, Query.leaves_conjunction]
    exact targets_flatMap (forall₂_of_mem (ofQueries_eq_ok bound) fun query member _ =>
      ih query member)
  | disjunction queries ih =>
    rw [ofQuery, Fault.bind_eq_ok_iff] at success
    obtain ⟨plans, bound, done⟩ := success
    cases done
    rw [clauses, clausesAll_eq_flatMap, Query.leaves_disjunction]
    exact targets_flatMap (forall₂_of_mem (ofQueries_eq_ok bound) fun query member _ =>
      ih query member)

end Plan

namespace Index

/-- A plan to which norms were applied is the plan as it was bound with the last norm applied to
it. Its clauses are the terms and phrases of the query that have a field to look in, and each weighs
what the last norm, its boost and its rarity make it. Binding fails only if the numbers given out
leave no room for the counts. -/
theorem last_norm_counts {weighed : Similarity} {operations : List Operation}
    (reached : run weighed operations = .ok index) (similarity : Similarity) (query : Query) :
    (∃ plan, Plan.ofQuery index similarity query = .ok plan ∧
      plan.clauses.map Clause.target = query.leaves.filterMap (Query.target? index.schema) ∧
      ∀ (earlier : List Float32) (last : Float32),
        plan.renormalize (earlier ++ [last]) = plan.normalize last ∧
        List.Forall₂ (Clause.UnderNorm last) plan.clauses
          (plan.renormalize (earlier ++ [last])).clauses) ∨
    UInt64.size ≤ index.maxDoc + 2 ∧
      Plan.ofQuery index similarity query = .error .additionOverflow := by
  have sound : index.Sound := sound_of_run reached
  cases bound : Plan.ofQuery index similarity query with
  | error reason =>
    obtain ⟨rfl, full⟩ := Plan.ofQuery_eq_error sound bound
    exact Or.inr ⟨full, rfl⟩
  | ok plan =>
    refine Or.inl ⟨plan, rfl, Plan.targets_of_ofQuery bound, fun earlier last => ?_⟩
    have same := plan.renormalize_append earlier last
    exact ⟨same, same ▸ plan.underNorm_clauses_normalize last⟩

/-- A query with a boosted phrase inside, a phrase without tokens and a field that is not there. -/
def patchyQuery : Query := .disjunction [
  .term "title" (.ofString "fox") 3.0,
  .conjunction [
    .phrase "title" [] 0 1.0,
    .term "author" (.ofString "red") 1.0,
    .phrase "title" [⟨.ofString "red", 2⟩, ⟨.ofString "hen", 6⟩] 1 2.0]]

theorem shelf_last_norm_counts : ∃ index plan, run .smoothed shelf = .ok index ∧
    Plan.ofQuery index .classic patchyQuery = .ok plan ∧
    plan.clauses.map Clause.target = [
      ⟨0, .term (.ofString "fox"), 3.0, "title:fox"⟩,
      ⟨0, .phrase [.ofString "red", .ofString "hen"] [0, 4] 1, 2.0, "title:\"red hen\"~1"⟩] ∧
    plan.renormalize [0.0, 0.0 / 0.0, 0.5] = plan.normalize 0.5 := by
  obtain ⟨index, reached, three, -⟩ := exists_run_shelf
  have schema : index.schema.fields = [⟨"title", .text, ⟨true, true, false⟩⟩] := by
    rw [schema_of_run reached]
    rfl
  rcases last_norm_counts reached .classic patchyQuery with ⟨plan, bound, targets, last⟩ | ⟨full, -⟩
  · refine ⟨index, plan, reached, bound, ?_, (last [0.0, 0.0 / 0.0] 0.5).1⟩
    rw [targets]
    have title : index.schema.find? "title" = some 0 := by
      rw [Schema.find?, schema]
      rfl
    have author : index.schema.find? "author" = none := by
      rw [Schema.find?, schema]
      rfl
    have leaves : patchyQuery.leaves = [
        .term "title" (.ofString "fox") 3.0, .phrase "title" [] 0 1.0,
        .term "author" (.ofString "red") 1.0,
        .phrase "title" [⟨.ofString "red", 2⟩, ⟨.ofString "hen", 6⟩] 1 2.0] := rfl
    simp only [leaves, List.filterMap_cons, List.filterMap_nil, Query.target?, title, author]
    rfl
  · rw [three] at full
    exact absurd full (by decide)

end Index

end Relevance
