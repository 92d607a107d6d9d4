import Relevance.Proofs.Query.Explaining
import Relevance.Proofs.Query.Searching

set_option autoImplicit false

namespace Relevance

variable {index : Index} {similarity : Similarity} {doc : DocId}

namespace Explanation

/-- The sum of parts that all match, from the left. -/
inductive SumOf (parts : List Explanation) : Explanation → Prop
  | of (matching : ∀ part ∈ parts, part.isMatch = true) :
    SumOf parts (.matched ((parts.map value).foldl (· + ·) 0.0) .sum parts)

/-- What the parts that match give out of so many clauses: their sum if their share is one, and
otherwise the sum times the share. -/
inductive ShareOf (parts : List Explanation) (clauses : Nat) : Explanation → Prop
  | whole {sum : Explanation} (sums : SumOf parts sum)
    (all : Similarity.coord parts.length clauses = 1.0) : ShareOf parts clauses sum
  | portion {sum : Explanation} {share : Float32} (sums : SumOf parts sum)
    (shares : Similarity.coord parts.length clauses = share) (fewer : share ≠ 1.0) :
    ShareOf parts clauses (.matched (sum.value * share) .product
      [sum, .leaf share (.coord parts.length clauses)])

/-- The rarity of a term, with the counts that it comes from. -/
def RarityOf (index : Index) (similarity : Similarity) (field : FieldId) (wanted : Term)
    (node : Explanation) : Prop :=
  let docFreq := (index.termStatistics field wanted).docFreq
  let docCount := (index.fieldStatistics field).effectiveDocCount
  ∃ idf, similarity.idf docFreq docCount = .ok idf ∧ node = .leaf idf (.idf docFreq docCount)

/-- The rarity of what a clause looks for: that of its only term, or the sum of those of its
terms. -/
inductive Rarity (index : Index) (similarity : Similarity) (field : FieldId) :
    List Term → Explanation → Prop
  | term {wanted : Term} {node : Explanation} (rare : RarityOf index similarity field wanted node) :
    Rarity index similarity field [wanted] node
  | phrase {terms : List Term} {parts : List Explanation} (several : terms.length ≠ 1)
    (each : List.Forall₂ (RarityOf index similarity field) terms parts) :
    Rarity index similarity field terms
      (.matched (narrow ((parts.map (widen ·.value)).foldl (· + ·) 0.0)) .idfSum parts)

end Explanation

open Explanation

/-- What the number of times is called that a document has what a clause looks for. -/
def Matcher.freqLabel : Matcher → Float32 → Label
  | .term _, freq => .termFreq freq
  | .phrase .., freq => .phraseFreq freq

namespace Clause

/-- The side of the query: the product of the query norm, the boost and the rarity. A boost of one
is left out. -/
inductive QuerySide (clause : Clause) : Explanation → Prop
  | plain (unit : clause.boost = 1.0)
    (weight : clause.weight.queryWeight = clause.weight.queryNorm * clause.weight.idf.value) :
    QuerySide clause (.matched clause.weight.queryWeight .queryWeight
      [clause.weight.idf, .leaf clause.weight.queryNorm .queryNorm])
  | boosted (other : clause.boost ≠ 1.0)
    (weight : clause.weight.queryWeight =
      clause.weight.queryNorm * clause.boost * clause.weight.idf.value) :
    QuerySide clause (.matched clause.weight.queryWeight .queryWeight
      [.leaf clause.boost .boost, clause.weight.idf, .leaf clause.weight.queryNorm .queryNorm])

/-- The side of the document: the product of the factor for a number of occurrences, the rarity and
the norm, in this order. -/
inductive FieldSide (clause : Clause) (doc : DocId) (freq tf norm : Float32) : Explanation → Prop
  | of : FieldSide clause doc freq tf norm
      (.matched (tf * clause.weight.idf.value * norm) (.fieldWeight doc) [
        .matched tf (.tf freq) [.leaf freq (clause.matcher.freqLabel freq)],
        clause.weight.idf,
        .leaf norm (.fieldNorm doc)])

/-- How a document is scored: by its own side if the query weight is one, and otherwise by both
sides. -/
inductive Scored (clause : Clause) (doc : DocId) (freq : Float32) : Explanation → Prop
  | alone {tf norm : Float32} {field : Explanation} (unit : clause.weight.queryWeight = 1.0)
    (side : FieldSide clause doc freq tf norm field) : Scored clause doc freq field
  | weighed {tf norm : Float32} {field query : Explanation}
    (other : clause.weight.queryWeight ≠ 1.0) (asked : QuerySide clause query)
    (side : FieldSide clause doc freq tf norm field) :
    Scored clause doc freq
      (.matched (tf * (query.value * clause.weight.idf.value) * norm) (.score doc freq)
        [query, field])

/-- A clause whose weight is made of its boost, its rarity and a query norm. -/
structure Weighed (index : Index) (similarity : Similarity) (clause : Clause) : Prop where
  boost_eq : clause.weight.boost = clause.boost
  queryWeight_eq : clause.weight.queryWeight =
    clause.weight.queryNorm * clause.boost * clause.weight.idf.value
  coherent : clause.weight.Coherent
  rare : Rarity index similarity clause.field clause.matcher.terms clause.weight.idf

end Clause

namespace Plan

/-- An explanation accounts for the match of a plan: it says of every clause that stands in the
document how it is scored, and adds up the parts of a conjunction and those parts of a disjunction
that match. -/
inductive Accounts (index : Index) (similarity : Similarity) (doc : DocId) :
    Plan → Explanation → Prop
  | leaf {clause : Clause} {freq : Float32} {score : Explanation}
    (counted : clause.freq index doc = .ok freq)
    (rare : Rarity index similarity clause.field clause.matcher.terms clause.weight.idf)
    (scored : clause.Scored doc freq score) :
    Accounts index similarity doc (.leaf clause)
      (.matched score.value (.weight clause.description doc similarity) [score])
  | conjunction {plans : List Plan} {why : Plan → Explanation} {sum : Explanation}
    (each : ∀ plan ∈ plans, Accounts index similarity doc plan (why plan))
    (sums : SumOf (plans.map why) sum) :
    Accounts index similarity doc (.conjunction plans) sum
  | disjunction {plans : List Plan} {why : Plan → Explanation} {node : Explanation}
    (told : ∀ plan ∈ plans, (why plan).isMatch = true ↔ plan.Matches index doc)
    (each : ∀ plan ∈ plans, plan.Matches index doc → Accounts index similarity doc plan (why plan))
    (any : ∃ plan ∈ plans, plan.Matches index doc)
    (shares : ShareOf ((plans.map why).filter Explanation.isMatch) plans.length node) :
    Accounts index similarity doc (.disjunction plans) node

end Plan

namespace Scorer

/-- The product that a score is, written with the factors of its explanation. -/
theorem score_eq_product (scorer : Scorer) (coherent : scorer.weight.Coherent) (doc : Nat)
    (freq : Float32) : scorer.score doc freq =
      scorer.similarity.tf freq * (scorer.weight.queryWeight * scorer.weight.idf.value) *
        (scorer.components doc freq).fieldNorm := by
  unfold Scorer.score components Similarity.score
  rw [← coherent]
  cases scorer.norms with
  | none => exact (Single.mul_one _).symm
  | some table => rfl

end Scorer

namespace Clause

variable {clause : Clause}

theorem Weighed.querySide (weighed : clause.Weighed index similarity) :
    clause.QuerySide (clause.scorer index similarity).explainQuery := by
  have weight := weighed.queryWeight_eq
  unfold Scorer.explainQuery Clause.scorer
  simp only [weighed.boost_eq]
  by_cases unit : clause.boost = 1.0
  · have left : (clause.boost != 1.0) = false := by
      rw [unit]
      decide +kernel
    rw [left]
    rw [unit, Single.mul_one] at weight
    exact .plain unit weight
  · have other : (clause.boost != 1.0) = true := by
      rw [bne, Bool.not_eq_true', Bool.eq_false_iff]
      exact fun equal => unit (Single.eq_one_of_beq equal)
    rw [other]
    exact .boosted unit weight

/-- A clause that stands in a document is explained by how it is scored there. -/
theorem Weighed.scored (weighed : clause.Weighed index similarity) (doc : DocId) (freq : Float32) :
    clause.Scored doc freq ((clause.scorer index similarity).explain doc
      (.leaf freq (clause.matcher.freqLabel freq))) := by
  have side : clause.FieldSide doc freq (similarity.tf freq)
      ((clause.scorer index similarity).components doc freq).fieldNorm
      ((clause.scorer index similarity).explainField doc
        (.leaf freq (clause.matcher.freqLabel freq))) := .of
  unfold Scorer.explain
  simp only
  split
  · rename_i unit
    exact .alone (Single.eq_one_of_beq unit) side
  · rename_i other
    have weighs : clause.weight.queryWeight ≠ 1.0 := by
      intro unit
      refine other ?_
      change (clause.weight.queryWeight == 1.0) = true
      rw [unit]
      decide +kernel
    have scored := Scored.weighed weighs weighed.querySide side
    have product := (clause.scorer index similarity).score_eq_product weighed.coherent doc freq
    change Scored clause doc freq (.matched ((clause.scorer index similarity).score doc freq) _ _)
    rw [product]
    exact scored

end Clause

namespace Explanation

variable {field : FieldId}

theorem rarityOf_of_explainIdf {wanted : Term} {node : Explanation}
    (success : similarity.explainIdf (index.fieldStatistics field)
      (index.termStatistics field wanted) = .ok node) :
    RarityOf index similarity field wanted node := by
  obtain ⟨idf, computed, done⟩ := Fault.bind_eq_ok_iff.mp success
  cases done
  exact ⟨idf, computed, rfl⟩

theorem rarity_of_explainIdfSum {terms : List Term} {node : Explanation}
    (several : terms.length ≠ 1)
    (success : similarity.explainIdfSum (index.fieldStatistics field)
      (terms.map (index.termStatistics field)) = .ok node) :
    Rarity index similarity field terms node := by
  obtain ⟨parts, computed, done⟩ := Fault.bind_eq_ok_iff.mp success
  cases done
  have each := List.forall₂_map_left_iff.mp (Fault.forall₂_of_mapM_eq_ok computed)
  rw [← List.foldl_map]
  exact .phrase several (each.imp fun wanted part => rarityOf_of_explainIdf)

theorem rarity_of_clauseWeight {terms : List Term} {weight : ClauseWeight}
    (success : similarity.clauseWeight (index.fieldStatistics field)
      (terms.map (index.termStatistics field)) = .ok weight) :
    Rarity index similarity field terms weight.idf := by
  match terms with
  | [] =>
    obtain ⟨idf, computed, done⟩ := Fault.bind_eq_ok_iff.mp success
    cases done
    exact rarity_of_explainIdfSum (by simp) computed
  | [term] =>
    obtain ⟨idf, computed, done⟩ := Fault.bind_eq_ok_iff.mp success
    cases done
    exact .term (rarityOf_of_explainIdf computed)
  | first :: second :: rest =>
    obtain ⟨idf, computed, done⟩ := Fault.bind_eq_ok_iff.mp success
    cases done
    exact rarity_of_explainIdfSum (by simp) computed

end Explanation

/-- The clauses of a plan weigh what their boost, their rarity and the query norm make them. -/
theorem Index.weighed_of_plan {query : Query} {plan : Plan}
    (planned : index.plan similarity query = .ok plan) :
    ∀ clause ∈ plan.clauses, clause.Weighed index similarity := by
  obtain ⟨bound, success, done⟩ := Fault.bind_eq_ok_iff.mp planned
  cases done
  have rare : ∀ clause ∈ bound.clauses,
      Rarity index similarity clause.field clause.matcher.terms clause.weight.idf := by
    refine Plan.forall_clauses_of_ofQuery (fun field matcher boost description clause made => ?_)
      success
    obtain ⟨weight, computed, done⟩ := Fault.bind_eq_ok_iff.mp made
    cases done
    have rare : Rarity index similarity field matcher.terms weight.idf :=
      rarity_of_clauseWeight computed
    exact rare
  rw [Plan.clauses_normalize, List.forall_mem_map]
  exact fun clause member => ⟨rfl, rfl, rfl, rare clause member⟩

/-- A clause that stands in a document accounts for its score there. -/
theorem Clause.Weighed.accounts {clause : Clause} (weighed : clause.Weighed index similarity)
    {explanation : Explanation} (explained : clause.explain index similarity doc = .ok explanation)
    (matched : explanation.isMatch = true) :
    Plan.Accounts index similarity doc (.leaf clause) explanation := by
  obtain ⟨freq, counted, told⟩ := Fault.bind_eq_ok_iff.mp explained
  split at told
  · cases told
    cases matched
  · cases told
    refine .leaf counted weighed.rare ?_
    obtain ⟨field, matcher, boost, weight, description⟩ := clause
    cases matcher with
    | term wanted => exact weighed.scored doc freq
    | phrase terms offsets slop => exact weighed.scored doc freq

namespace Plan

theorem accounts_explainAll {plans : List Plan} {why : Plan → Explanation}
    (each : ∀ plan ∈ plans, (why plan).isMatch = true →
      Accounts index similarity doc plan (why plan))
    (matched : (explainAll (plans.map why)).isMatch = true) :
    Accounts index similarity doc (.conjunction plans) (explainAll (plans.map why)) := by
  unfold explainAll at matched ⊢
  split at matched
  · rename_i all
    have matching : ∀ part ∈ plans.map why, part.isMatch = true := List.all_eq_true.mp all
    rw [if_pos all, sumValues_eq]
    have account : ∀ plan ∈ plans, Accounts index similarity doc plan (why plan) :=
      fun plan member => each plan member (matching _ (List.mem_map_of_mem member))
    exact .conjunction account (.of matching)
  · cases matched

theorem accounts_explainAny {plans : List Plan} {why : Plan → Explanation}
    (told : ∀ plan ∈ plans, (why plan).isMatch = true ↔ plan.Matches index doc)
    (each : ∀ plan ∈ plans, (why plan).isMatch = true →
      Accounts index similarity doc plan (why plan))
    (matched : (explainAny (plans.map why)).isMatch = true) :
    Accounts index similarity doc (.disjunction plans) (explainAny (plans.map why)) := by
  have matching : ∀ part ∈ (plans.map why).filter isMatch, part.isMatch = true :=
    fun part member => (List.mem_filter.mp member).2
  have sums := SumOf.of matching
  unfold explainAny at matched ⊢
  simp only [sumValues_eq, List.length_map] at matched ⊢
  split at matched
  · cases matched
  · rename_i some
    rw [if_neg some]
    have any : ∃ plan ∈ plans, plan.Matches index doc := by
      rw [List.isEmpty_iff] at some
      obtain ⟨part, member⟩ := List.exists_mem_of_ne_nil _ some
      obtain ⟨plan, inside, rfl⟩ := List.mem_map.mp (List.mem_filter.mp member).1
      exact ⟨plan, inside, (told plan inside).mp (matching _ member)⟩
    have account : ∀ plan ∈ plans, plan.Matches index doc →
        Accounts index similarity doc plan (why plan) :=
      fun plan member holds => each plan member ((told plan member).mpr holds)
    refine .disjunction told account any ?_
    split
    · rename_i all
      exact .whole sums (Single.eq_one_of_beq all)
    · rename_i fewer
      have other : Similarity.coord ((plans.map why).filter isMatch).length plans.length ≠ 1.0 :=
        fun all => fewer (by rw [all]; decide +kernel)
      have portion := ShareOf.portion sums rfl other
      exact portion

/-- A plan is explained as a match of exactly the documents that it matches. -/
theorem Binds.isMatch_iff {query : Query} {plan : Plan} (binds : Binds index query plan)
    (weighed : ∀ clause ∈ plan.clauses, clause.Weighed index similarity) (doc : DocId) :
    ∃ explanation, plan.explain index similarity doc = .ok explanation ∧
      (explanation.isMatch = true ↔ plan.Matches index doc) := by
  obtain ⟨explanation, explained, scored⟩ :=
    exists_explanation binds.placed (fun clause member => (weighed clause member).coherent) doc
  obtain ⟨found, same, matched⟩ : ∃ found, plan.score index similarity doc = .ok found ∧
      (found.isSome ↔ plan.Matches index doc) := exists_score binds.placed doc
  cases scored.symm.trans same
  exact ⟨explanation, explained, by rw [← isSome_score, matched]⟩

/-- What a plan explains as a match is accounted for. -/
theorem Binds.accounts {query : Query} {plan : Plan} (binds : Binds index query plan)
    (weighed : ∀ clause ∈ plan.clauses, clause.Weighed index similarity)
    {explanation : Explanation} (explained : plan.explain index similarity doc = .ok explanation)
    (matched : explanation.isMatch = true) : Accounts index similarity doc plan explanation := by
  induction plan generalizing query explanation with
  | matchNone =>
    rw [explain] at explained
    cases explained
    cases matched
  | leaf clause =>
    rw [explain] at explained
    exact (weighed clause (by rw [clauses]; exact List.mem_singleton_self _)).accounts explained
      matched
  | conjunction plans ih =>
    rw [forall_clauses_conjunction] at weighed
    cases binds with
    | conjunction parts =>
      have each : ∀ plan ∈ plans, ∃ part, plan.explain index similarity doc = .ok part ∧
          (part.isMatch = true → Accounts index similarity doc plan part) := by
        intro plan member
        obtain ⟨query, -, bound⟩ := exists_of_mem_right parts member
        obtain ⟨part, told, -⟩ := bound.isMatch_iff (weighed plan member) doc
        exact ⟨part, told, ih plan member bound (weighed plan member) told⟩
      choose! why told account using each
      rw [explain, explainParts_eq_ok told, Fault.map_ok] at explained
      cases explained
      exact accounts_explainAll account matched
  | disjunction plans ih =>
    rw [forall_clauses_disjunction] at weighed
    cases binds with
    | disjunction parts =>
      have each : ∀ plan ∈ plans, ∃ part, plan.explain index similarity doc = .ok part ∧
          (part.isMatch = true ↔ plan.Matches index doc) ∧
          (part.isMatch = true → Accounts index similarity doc plan part) := by
        intro plan member
        obtain ⟨query, -, bound⟩ := exists_of_mem_right parts member
        obtain ⟨part, told, same⟩ := bound.isMatch_iff (weighed plan member) doc
        exact ⟨part, told, same, ih plan member bound (weighed plan member) told⟩
      choose! why told same account using each
      rw [explain, explainParts_eq_ok told, Fault.map_ok] at explained
      cases explained
      exact accounts_explainAny same account matched

end Plan

namespace Index

/-- The explanation of a match accounts for it from the root down to the counts. Explaining fails
only if the numbers given out leave no room for the counts. -/
theorem explanation_accounts {weighed : Similarity} {operations : List Operation}
    (reached : run weighed operations = .ok index) (similarity : Similarity) (query : Query)
    (doc : DocId) :
    (∃ plan explanation, index.plan similarity query = .ok plan ∧ plan.Binds index query ∧
      index.explain similarity query doc = .ok explanation ∧
      (explanation.isMatch = true ↔ plan.Matches index doc) ∧
      (plan.Matches index doc → plan.Accounts index similarity doc explanation)) ∨
    UInt64.size ≤ index.maxDoc + 2 ∧
      index.explain similarity query doc = .error .additionOverflow := by
  have sound : index.Sound := sound_of_run reached
  rcases sound.plan_cases similarity query with ⟨plan, planned, binds⟩ | ⟨failed, overflow⟩
  · have weighs := weighed_of_plan planned
    obtain ⟨explanation, explained, same⟩ := binds.isMatch_iff weighs doc
    refine Or.inl ⟨plan, explanation, planned, binds, ?_, same, fun matched => ?_⟩
    · rw [Index.explain, planned, Fault.ok_bind, explained]
    · exact binds.accounts weighs explained (same.mpr matched)
  · refine Or.inr ⟨overflow, ?_⟩
    rw [Index.explain, failed, Fault.error_bind]

theorem shelf_explanation_accounts : ∃ index explanation, ∃ plan : Plan,
    run .smoothed shelf = .ok index ∧
    index.explain .classic shelfQuery 2 = .ok explanation ∧ explanation.isMatch = true ∧
    plan.Accounts index .classic 2 explanation := by
  obtain ⟨index, reached, three, -⟩ := exists_run_shelf
  have told : (run .smoothed shelf).toOption.bind (fun index =>
      (index.explain .classic shelfQuery 2).toOption.map Explanation.isMatch) = some true := by
    decide +kernel
  rcases explanation_accounts reached .classic shelfQuery 2 with
    ⟨plan, explanation, -, -, explained, same, accounts⟩ | ⟨full, -⟩
  · simp only [reached, Except.toOption, Option.bind_some, explained, Option.map_some,
      Option.some.injEq] at told
    exact ⟨index, explanation, plan, reached, explained, told, accounts (same.mp told)⟩
  · rw [three] at full
    exact absurd full (by decide)

end Index

end Relevance
