import Relevance.Proofs.Query.Matching

set_option autoImplicit false

namespace Relevance

/-- The score that an explanation is of; none if it says why there is none. -/
def Explanation.score? (explanation : Explanation) : Option Float32 :=
  if explanation.isMatch then some explanation.value else none

variable {index : Index} {similarity : Similarity} {doc : DocId}

instance : Nonempty Explanation := ⟨.noMatch .matchesNothing []⟩

namespace ClauseWeight

/-- The value of a weight is what its query weight and its rarity make it. -/
def Coherent (weight : ClauseWeight) : Prop :=
  weight.value = weight.queryWeight * weight.idf.value

theorem coherent_normalize (weight : ClauseWeight) (queryNorm boost : Float32) :
    (weight.normalize queryNorm boost).Coherent := rfl

end ClauseWeight

namespace Scorer

/-- The field's side of an explanation is the whole score if the query weight is one. -/
theorem explainField_value {scorer : Scorer} (coherent : scorer.weight.Coherent)
    (unit : scorer.weight.queryWeight = 1.0) (doc : Nat) (freq : Explanation) :
    (scorer.explainField doc freq).value = scorer.score doc freq.value := by
  have weight : scorer.weight.value = scorer.weight.idf.value := by
    rw [coherent, unit, Single.one_mul]
  unfold explainField Scorer.score components Similarity.score Explanation.matched
  simp only [Explanation.value, weight]
  cases scorer.norms with
  | none => exact Single.mul_one _
  | some table => rfl

theorem explain_value (scorer : Scorer) (coherent : scorer.weight.Coherent) (doc : Nat)
    (freq : Explanation) :
    (scorer.explain doc freq).value = scorer.score doc freq.value := by
  unfold Scorer.explain
  simp only
  split
  · rename_i unit
    exact explainField_value coherent (Single.eq_one_of_beq unit) doc freq
  · rfl

end Scorer

/-- A clause explains the score that it gives. -/
theorem Clause.exists_explanation {clause : Clause} (placed : clause.matcher.Placed)
    (coherent : clause.weight.Coherent) (doc : DocId) :
    ∃ explanation, clause.explain index similarity doc = .ok explanation ∧
      clause.score index similarity doc = .ok explanation.score? := by
  obtain ⟨freq, counted⟩ : ∃ freq, clause.freq index doc = .ok freq := exists_freq placed doc
  unfold Clause.explain Clause.score
  simp only [counted, Fault.ok_bind]
  split
  · exact ⟨_, rfl, rfl⟩
  · refine ⟨_, rfl, ?_⟩
    have value := Scorer.explain_value (clause.scorer index similarity) coherent doc
    simp only [Explanation.score?, Explanation.matched, Explanation.isMatch, Explanation.value,
      ↓reduceIte]
    exact congrArg (Except.ok ∘ some) (value (.leaf freq _)).symm

namespace Plan

/-- After normalisation every weight is what its query weight and its rarity make it. -/
theorem coherent_of_normalize {plan : Plan} {queryNorm : Float32} :
    ∀ clause ∈ (plan.normalize queryNorm).clauses, clause.weight.Coherent := by
  rw [clauses_normalize, List.forall_mem_map]
  exact fun clause _ => clause.weight.coherent_normalize queryNorm clause.boost

theorem explainParts_eq_ok {plans : List Plan} {why : Plan → Explanation}
    (explained : ∀ plan ∈ plans, plan.explain index similarity doc = .ok (why plan)) :
    explainParts index similarity doc plans = .ok (plans.map why) := by
  induction plans with
  | nil => rfl
  | cons plan rest ih =>
    rw [explainParts, explained plan List.mem_cons_self, Fault.ok_bind,
      ih fun inner later => explained inner (List.mem_cons_of_mem _ later)]
    rfl

theorem filterMap_score (parts : List Explanation) :
    parts.filterMap Explanation.score? =
      (parts.filter Explanation.isMatch).map Explanation.value := by
  induction parts with
  | nil => rfl
  | cons part rest ih =>
    rw [List.filterMap_cons, List.filter_cons, Explanation.score?]
    cases part.isMatch <;> simp [ih]

theorem sumValues_eq (details : List Explanation) :
    sumValues details = (details.map Explanation.value).foldl (· + ·) 0.0 := by
  rw [sumValues, List.foldl_map]

theorem isSome_score (explanation : Explanation) :
    explanation.score?.isSome = explanation.isMatch := by
  unfold Explanation.score?
  cases explanation.isMatch <;> rfl

/-- A conjunction is explained by the sum of its parts, if all of them match. -/
theorem score_explainAll (parts : List Explanation) : (explainAll parts).score? =
    if parts.all fun part => part.score?.isSome then
      some ((parts.filterMap Explanation.score?).foldl (· + ·) 0.0) else none := by
  simp only [isSome_score]
  unfold explainAll
  split
  · rename_i all
    rw [filterMap_score, List.filter_eq_self.mpr (List.all_eq_true.mp all), ← sumValues_eq]
    rfl
  · rfl

/-- A disjunction is explained by the sum of the parts that match and their share. -/
theorem score_explainAny (parts : List Explanation) : (explainAny parts).score? =
    if (parts.filterMap Explanation.score?).length = 0 then none else
      some (coordinated ((parts.filterMap Explanation.score?).foldl (· + ·) 0.0)
        (parts.filterMap Explanation.score?).length parts.length) := by
  rw [filterMap_score, List.length_map, ← sumValues_eq]
  unfold explainAny coordinated
  simp only [List.isEmpty_iff_length_eq_zero]
  split
  · rfl
  · split <;> rfl

/-- A plan explains the score that it gives. -/
theorem exists_explanation {plan : Plan}
    (placed : ∀ clause ∈ plan.clauses, clause.matcher.Placed)
    (coherent : ∀ clause ∈ plan.clauses, clause.weight.Coherent) (doc : DocId) :
    ∃ explanation, plan.explain index similarity doc = .ok explanation ∧
      plan.score index similarity doc = .ok explanation.score? := by
  induction plan with
  | matchNone => exact ⟨_, by rw [explain], by rw [score]; rfl⟩
  | leaf clause =>
    rw [explain, score]
    rw [clauses, List.forall_mem_singleton] at placed coherent
    exact Clause.exists_explanation placed coherent doc
  | conjunction plans ih =>
    rw [forall_clauses_conjunction] at placed coherent
    have each : ∀ plan ∈ plans, ∃ explanation, plan.explain index similarity doc = .ok explanation ∧
        plan.score index similarity doc = .ok explanation.score? :=
      fun plan member => ih plan member (placed plan member) (coherent plan member)
    choose! why explained scored using each
    refine ⟨explainAll (plans.map why), ?_, ?_⟩
    · rw [explain, explainParts_eq_ok explained, Fault.map_ok]
    · rw [score_conjunction_eq_ok scored, score_explainAll, List.all_map, List.filterMap_map]
      rfl
  | disjunction plans ih =>
    rw [forall_clauses_disjunction] at placed coherent
    have each : ∀ plan ∈ plans, ∃ explanation, plan.explain index similarity doc = .ok explanation ∧
        plan.score index similarity doc = .ok explanation.score? :=
      fun plan member => ih plan member (placed plan member) (coherent plan member)
    choose! why explained scored using each
    refine ⟨explainAny (plans.map why), ?_, ?_⟩
    · rw [explain, explainParts_eq_ok explained, Fault.map_ok]
    · rw [score_disjunction_eq_ok scored, score_explainAny, List.filterMap_map, List.length_map]
      rfl

end Plan

namespace Index

theorem coherent_of_plan {query : Query} {plan : Plan}
    (planned : index.plan similarity query = .ok plan) :
    ∀ clause ∈ plan.clauses, clause.weight.Coherent := by
  obtain ⟨bound, -, done⟩ := Fault.bind_eq_ok_iff.mp planned
  cases done
  exact Plan.coherent_of_normalize

/-- A document is explained as a match if and only if it has a score, and the value at the root of
the explanation is that score. Both fail together, and only if the numbers given out leave no room
for the counts. -/
theorem explanation_root_is_score {weighed : Similarity} {operations : List Operation}
    (reached : run weighed operations = .ok index) (similarity : Similarity) (query : Query)
    (doc : DocId) :
    (∃ explanation found, index.explain similarity query doc = .ok explanation ∧
      index.score similarity query doc = .ok found ∧
      (explanation.isMatch = true ↔ found.isSome) ∧
      ∀ score, found = some score → explanation.value = score) ∨
    UInt64.size ≤ index.maxDoc + 2 ∧
      index.explain similarity query doc = .error .additionOverflow ∧
      index.score similarity query doc = .error .additionOverflow := by
  have sound : index.Sound := sound_of_run reached
  rcases sound.plan_cases similarity query with ⟨plan, planned, binds⟩ | ⟨failed, overflow⟩
  · obtain ⟨explanation, explained, scored⟩ : ∃ explanation,
        plan.explain index similarity doc = .ok explanation ∧
        plan.score index similarity doc = .ok explanation.score? :=
      Plan.exists_explanation binds.placed (coherent_of_plan planned) doc
    refine Or.inl ⟨explanation, explanation.score?, ?_, ?_, ?_, fun score same => ?_⟩
    · rw [Index.explain, planned, Fault.ok_bind, explained]
    · rw [Index.score, planned, Fault.ok_bind, scored]
    · rw [Plan.isSome_score]
    · unfold Explanation.score? at same
      split at same
      · exact Option.some.inj same
      · cases same
  · refine Or.inr ⟨overflow, ?_, ?_⟩
    · rw [Index.explain, failed, Fault.error_bind]
    · rw [Index.score, failed, Fault.error_bind]

theorem shelf_explanation_root_is_score : ∃ index explanation found,
    run .smoothed shelf = .ok index ∧
    index.explain .classic (.ofTerm "title" (.ofString "hen")) 2 = .ok explanation ∧
    index.score .classic (.ofTerm "title" (.ofString "hen")) 2 = .ok found ∧
    (explanation.isMatch = true ↔ found.isSome) ∧
    ∀ score, found = some score → explanation.value = score := by
  obtain ⟨index, reached, three, -⟩ := exists_run_shelf
  rcases explanation_root_is_score reached .classic (.ofTerm "title" (.ofString "hen")) 2 with
    ⟨explanation, found, explained, scored, same, value⟩ | ⟨overflow, -⟩
  · exact ⟨index, explanation, found, reached, explained, scored, same, value⟩
  · rw [three] at overflow
    exact absurd overflow (by decide)

end Index

end Relevance
