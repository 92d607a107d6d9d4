import Relevance.Proofs.Index.Ranges
import Relevance.Proofs.Query.Binding
import Relevance.Proofs.Query.Factors
import Relevance.Proofs.Query.Moderate

set_option autoImplicit false

namespace Relevance

open Rounding

variable {index : Index} {similarity : Similarity}

namespace Similarity

/-- The rarity of a term of an index. -/
theorem spans_explainIdf (sound : index.Sound) {field : FieldId} {term : Term}
    {idf : Explanation} (success : similarity.explainIdf (index.fieldStatistics field)
      (index.termStatistics field term) = .ok idf) : Single.Spans 0 7 idf.value := by
  obtain ⟨value, computed, done⟩ := Fault.bind_eq_ok_iff.mp success
  cases done
  exact spans_idf (sound.docFreq_le_effectiveDocCount field term) computed

/-- The rarity of a phrase is not much larger than its number of terms. -/
theorem spans_explainIdfSum (sound : index.Sound) {field : FieldId} {terms : List Term}
    (some : terms ≠ []) (few : terms.length ≤ 2 ^ 20) {idf : Explanation}
    (success : similarity.explainIdfSum (index.fieldStatistics field)
      (terms.map (index.termStatistics field)) = .ok idf) : Single.Spans 0 27 idf.value := by
  obtain ⟨details, computed, done⟩ := Fault.bind_eq_ok_iff.mp success
  cases done
  have each : ∀ part ∈ details.map (widen ·.value), Double.Spans 0 7 part := by
    intro part member
    obtain ⟨detail, explained, rfl⟩ := List.mem_map.mp member
    obtain ⟨statistics, listed, explained⟩ := Fault.exists_of_mapM_eq_ok computed explained
    obtain ⟨term, -, rfl⟩ := List.mem_map.mp listed
    exact (spans_explainIdf sound explained).widen (by decide) (by decide)
  have length := Fault.length_of_mapM_eq_ok computed
  rw [List.length_map] at length
  have nonempty : details.map (widen ·.value) ≠ [] := by
    intro none
    rw [List.map_eq_nil_iff.mp none] at length
    exact some (List.length_eq_zero_iff.mp length.symm)
  have brief : (details.map (widen ·.value)).length ≤ 2 ^ 20 := by
    rw [List.length_map]
    omega
  have sum : Double.Spans 0 27 ((details.map (widen ·.value)).foldl (· + ·) 0.0) :=
    Double.spans_sum (by decide) (by decide) (by decide) brief nonempty each
  rw [List.foldl_map] at sum
  exact sum.narrow (by decide) (by decide)

theorem spans_clauseWeight (sound : index.Sound) {field : FieldId} {terms : List Term}
    (some : terms ≠ []) (few : terms.length ≤ 2 ^ 20) {weight : ClauseWeight}
    (success : similarity.clauseWeight (index.fieldStatistics field)
      (terms.map (index.termStatistics field)) = .ok weight) :
    Single.Spans 0 27 weight.idf.value := by
  match terms with
  | [] => exact absurd rfl some
  | [term] =>
    obtain ⟨idf, computed, done⟩ := Fault.bind_eq_ok_iff.mp success
    cases done
    exact (spans_explainIdf sound computed).mono (by decide) (by decide)
  | first :: second :: rest =>
    obtain ⟨idf, computed, done⟩ := Fault.bind_eq_ok_iff.mp success
    cases done
    exact spans_explainIdfSum sound some few computed

end Similarity

/-- A matcher that allows no word out of place. -/
def Matcher.Exact : Matcher → Prop
  | .term _ => True
  | .phrase _ _ slop => slop = 0

/-- A clause with a boost and a rarity that are neither tiny nor huge, and nothing out of place. -/
structure Clause.Moderate (clause : Clause) : Prop where
  boost_spans : Single.Spans (-20) 20 clause.boost
  idf_spans : Single.Spans 0 27 clause.weight.idf.value
  exact : clause.matcher.Exact

/-- A clause that weighs its boost times its rarity, as before there is a query norm. -/
def Clause.Fresh (clause : Clause) : Prop :=
  clause.weight.queryWeight = 1.0 * clause.boost * clause.weight.idf.value

theorem Clause.fresh_of_ofMatcher {field : FieldId} {matcher : Matcher} {boost : Float32}
    {description : String} {clause : Clause}
    (success : ofMatcher index similarity field matcher boost description = .ok clause) :
    clause.Fresh := by
  obtain ⟨weight, -, done⟩ := Fault.bind_eq_ok_iff.mp success
  cases done
  rfl

theorem Clause.moderate_of_ofMatcher (sound : index.Sound) {field : FieldId} {matcher : Matcher}
    {boost : Float32} {description : String} {clause : Clause}
    (success : ofMatcher index similarity field matcher boost description = .ok clause)
    (weighed : Single.Spans (-20) 20 boost) (some : matcher.terms ≠ [])
    (few : matcher.terms.length ≤ 2 ^ 20) (exact : matcher.Exact) : clause.Moderate := by
  obtain ⟨weight, computed, done⟩ := Fault.bind_eq_ok_iff.mp success
  cases done
  have idf : Single.Spans 0 27 weight.idf.value :=
    Similarity.spans_clauseWeight sound some few computed
  exact ⟨weighed, idf, exact⟩

theorem Clause.Fresh.spans_valueForNormalization {clause : Clause} (fresh : clause.Fresh)
    {boost idf : Int} (least : -20 ≤ boost) (more : 0 ≤ idf)
    (boosted : Single.Spans boost 20 clause.boost)
    (rare : Single.Spans idf 27 clause.weight.idf.value) :
    Single.Spans (2 * (boost + idf)) 94 clause.weight.valueForNormalization := by
  have weight : Single.Spans (boost + idf) 47 clause.weight.queryWeight := by
    rw [fresh, Single.one_mul]
    exact boosted.mul rare (by omega) (by decide) (by omega) (by decide)
  exact weight.mul weight (by omega) (by decide) (by omega) (by decide)

namespace Plan

/-- A plan for a moderate query. -/
inductive Moderate : Nat → Plan → Prop
  | matchNone {bits : Nat} : Moderate bits .matchNone
  | leaf {bits : Nat} {clause : Clause} (moderate : clause.Moderate) : Moderate bits (.leaf clause)
  | disjunction {bits more : Nat} {plans : List Plan} (few : plans.length ≤ 2 ^ more)
    (short : more ≤ 24) (each : ∀ plan ∈ plans, Moderate bits plan) :
    Moderate (bits + more) (.disjunction plans)

theorem moderate_of_ofQuery (sound : index.Sound) {bits : Nat} {query : Query} {plan : Plan}
    (moderate : query.Moderate bits) (success : ofQuery index similarity query = .ok plan) :
    plan.Moderate bits := by
  induction moderate generalizing plan with
  | matchNone =>
    cases success
    exact .matchNone
  | term weighed =>
    rw [ofQuery] at success
    split at success
    · cases success
      exact .matchNone
    · obtain ⟨clause, bound, done⟩ := Fault.bind_eq_ok_iff.mp success
      cases done
      exact .leaf (Clause.moderate_of_ofMatcher sound bound weighed (List.cons_ne_nil _ _)
        Nat.one_le_two_pow trivial)
  | @phrase bits field tokens boost weighed few =>
    rw [ofQuery] at success
    split at success
    · cases success
      exact .matchNone
    · simp only [Matcher.ofTokens?_eq_ok, Fault.ok_bind] at success
      cases least : firstPosition? tokens with
      | none =>
        rw [least] at success
        cases success
        exact .matchNone
      | some first =>
        simp only [least, Option.map_some, Fault.bind_eq_ok_iff] at success
        obtain ⟨clause, bound, done⟩ := success
        cases done
        apply Moderate.leaf
        apply Clause.moderate_of_ofMatcher sound bound weighed
        · intro none
          rw [Matcher.ofPhrase, Matcher.terms, List.map_eq_nil_iff] at none
          rw [firstPosition_eq_none_iff.mpr none] at least
          cases least
        · rw [Matcher.ofPhrase, Matcher.terms, List.length_map]
          exact few
        · rfl
  | @disjunction bits more queries few short _ ih =>
    rw [ofQuery, Fault.bind_eq_ok_iff] at success
    obtain ⟨plans, bound, done⟩ := success
    cases done
    have parts := ofQueries_eq_ok bound
    refine .disjunction (parts.length_eq ▸ few) short fun plan member => ?_
    obtain ⟨query, asked, bound⟩ := exists_of_mem_right parts member
    exact ih query asked bound

theorem Moderate.normalize {bits : Nat} {plan : Plan} (moderate : plan.Moderate bits)
    (queryNorm : Float32) : (plan.normalize queryNorm).Moderate bits := by
  induction moderate with
  | matchNone => exact .matchNone
  | leaf moderate => exact .leaf ⟨moderate.boost_spans, moderate.idf_spans, moderate.exact⟩
  | @disjunction bits more plans few short _ ih =>
    rw [Plan.normalize, normalizeAll_eq_map]
    apply Moderate.disjunction (by rw [List.length_map]; exact few) short
    intro part member
    obtain ⟨plan, inside, rfl⟩ := List.mem_map.mp member
    exact ih plan inside

theorem Moderate.of_mem_clauses {bits : Nat} {plan : Plan} (moderate : plan.Moderate bits) :
    ∀ clause ∈ plan.clauses, clause.Moderate := by
  induction moderate with
  | matchNone => exact nofun
  | leaf moderate =>
    rw [clauses, List.forall_mem_singleton]
    exact moderate
  | disjunction _ _ _ ih =>
    rw [forall_clauses_disjunction]
    exact ih

theorem sumForNormalization_eq_foldl (sum : Float32) (plans : List Plan) :
    sumForNormalization sum plans = (plans.map valueForNormalization).foldl (· + ·) sum := by
  induction plans generalizing sum with
  | nil => rfl
  | cons plan rest ih => rw [sumForNormalization, ih, List.map_cons, List.foldl_cons]

/-- The sum of the squared weights is no less than any of them, and does not overflow. -/
theorem Moderate.between_valueForNormalization {bits : Nat} {plan : Plan}
    (moderate : plan.Moderate bits) (small : bits ≤ 30)
    (each : ∀ clause ∈ plan.clauses,
      Single.Between 0 (2 ^ (94 : Int)) clause.weight.valueForNormalization) :
    Single.Between 0 (2 ^ (94 + bits : Int)) plan.valueForNormalization ∧
      ∀ clause ∈ plan.clauses, ∀ low, OnGrid .binary32 low →
        Single.Between low (2 ^ (94 : Int)) clause.weight.valueForNormalization →
        Single.Between low (2 ^ (94 + bits : Int)) plan.valueForNormalization := by
  induction moderate with
  | matchNone =>
    refine ⟨?_, nofun⟩
    exact Rounding.Between.mono Single.between_zero (le_refl _) (zpow_pos_two _).le
  | @leaf bits clause moderate =>
    rw [clauses, List.forall_mem_singleton] at each
    have wider : (2 : ℝ) ^ (94 : Int) ≤ 2 ^ (94 + bits : Int) := two_zpow_mono (by omega)
    refine ⟨Rounding.Between.mono each (le_refl _) wider, ?_⟩
    rw [clauses, List.forall_mem_singleton]
    exact fun low _ above => Rounding.Between.mono above (le_refl _) wider
  | @disjunction bits more plans few short _ ih =>
    rw [forall_clauses_disjunction] at each
    have parts : ∀ part ∈ plans.map valueForNormalization,
        Single.Between 0 (2 ^ (94 + bits : Int)) part := by
      intro part member
      obtain ⟨plan, inside, rfl⟩ := List.mem_map.mp member
      exact (ih plan inside (by omega) (each plan inside)).1
    have count : (plans.map valueForNormalization).length ≤ 2 ^ more := by
      rw [List.length_map]
      exact few
    have sum : ∀ low, OnGrid .binary32 low →
        (low ≤ 0 ∨ ∃ part ∈ plans.map valueForNormalization,
          Single.Between low (2 ^ (94 + bits : Int)) part) →
        Single.Between low (2 ^ (94 + (bits + more : Nat) : Int))
          (Plan.disjunction plans).valueForNormalization := by
      intro low grid some
      rw [valueForNormalization, sumForNormalization_eq_foldl, Nat.cast_add, ← add_assoc]
      exact Single.between_sum (by omega) (by omega) short count grid parts some
    refine ⟨sum 0 onGrid_zero (Or.inl (le_refl 0)), ?_⟩
    intro clause member low grid above
    rw [clauses, mem_clausesAll] at member
    obtain ⟨plan, inside, member⟩ := member
    apply sum low grid
    apply Or.inr
    exact ⟨_, List.mem_map_of_mem inside,
      (ih plan inside (by omega) (each plan inside)).2 clause member low grid above⟩

/-- The query norm makes up for the boost and the rarity of every clause. -/
theorem Moderate.spans_value {bits : Nat} {plan : Plan} (moderate : plan.Moderate bits)
    (small : bits ≤ 30) (fresh : ∀ clause ∈ plan.clauses, clause.Fresh) :
    ∀ clause ∈ (plan.normalize plan.queryNorm).clauses,
      Single.Spans (-82) 29 clause.weight.value := by
  rw [clauses_normalize, List.forall_mem_map]
  intro clause member
  have each : ∀ clause ∈ plan.clauses,
      Single.Between 0 (2 ^ (94 : Int)) clause.weight.valueForNormalization := by
    intro clause inside
    have own := moderate.of_mem_clauses clause inside
    have value := (fresh clause inside).spans_valueForNormalization (by decide) (by decide)
      own.boost_spans own.idf_spans
    exact Rounding.Spans.between value
  have own := moderate.of_mem_clauses clause member
  obtain ⟨boost, least, boosted, whole⟩ := Rounding.Spans.exists_binade own.boost_spans
  obtain ⟨idf, more, rare, rarest⟩ := Rounding.Spans.exists_binade own.idf_spans
  have above := (fresh clause member).spans_valueForNormalization least more whole rarest
  have sum : Single.Spans (2 * (boost + idf)) (94 + bits) plan.valueForNormalization :=
    (moderate.between_valueForNormalization small each).2 clause member _
      (onGrid_two_zpow (by change (-149 : Int) ≤ _; omega)) above
  have norm : Single.Spans (-62) (-(boost + idf)) plan.queryNorm := by
    have norm : Single.Spans (-62) (-(boost + idf))
        (Similarity.queryNorm plan.valueForNormalization) :=
      Similarity.spans_queryNorm sum (le_refl _) (by omega) (by omega) (by decide)
    rw [queryNorm, if_pos norm.isFinite]
    exact norm
  -- The norm is about the boost times the rarity, upside down: one of both is left.
  have unboosted : Single.Spans (-82) (1 - idf) (plan.queryNorm * clause.boost) :=
    norm.mul boosted (by decide) (by omega) (by omega) (by omega)
  have weight : Single.Spans (-82) 2 (plan.queryNorm * clause.boost * clause.weight.idf.value) :=
    unboosted.mul rare (by decide) (by decide) (by omega) (by omega)
  exact weight.mul own.idf_spans (by decide) (by decide) (by decide) (by decide)

end Plan

end Relevance
