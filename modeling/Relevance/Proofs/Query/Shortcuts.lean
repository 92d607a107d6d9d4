import Relevance.Proofs.Numeric.Counting
import Relevance.Proofs.Numeric.Reciprocal
import Relevance.Proofs.Numeric.Signs
import Relevance.Proofs.Query.Faultless

set_option autoImplicit false

namespace Relevance

open Single

/-- A phrase of one term has that term's frequency, whatever the slop. -/
theorem Phrase.freq_singleton {positions : List UInt32} (few : positions.length < 2 ^ 24)
    (slop : UInt32) : freq [positions] [0] slop = .ok (countToSingle positions.length) := by
  have ones : ∀ contribution : UInt32 → Except Fault (Option Float32),
      (∀ start, contribution start = .ok (if true then some 1.0 else none)) →
      countStarts positions contribution = .ok (countToSingle positions.length) := by
    intro contribution each
    rw [countStarts_eq_ok each, sum_ones_eq_count positions fun _ => true, List.countP_true,
      Nat.min_eq_left (Nat.le_of_lt few)]
  unfold freq
  by_cases none : positions = []
  · rw [none, List.length_nil, countToSingle_zero]
    rfl
  rw [if_neg (by simpa using none)]
  split
  · apply ones
    intro start
    rfl
  · apply ones
    intro start
    rw [baseOf_cons, Fault.ok_bind]
    have nearest : (0 : Int) ≤ slop.toNat := Int.natCast_nonneg _
    simp only [matchLength?, follow, Option.map_some, Int.sub_self, if_pos nearest]
    exact congrArg (Except.ok ∘ some) sloppyFreq_zero

/-- Explanations of one score, as far as it can be compared, or of none. -/
def Explanation.Alike (explanation other : Explanation) : Prop :=
  explanation.isMatch = other.isMatch ∧
    (explanation.isMatch = true → SameNumber explanation.value other.value)

theorem Explanation.alike_of_score {explanation other : Explanation}
    (same : explanation.score? = other.score?) : explanation.Alike other := by
  have matched := congrArg Option.isSome same
  rw [Plan.isSome_score, Plan.isSome_score] at matched
  refine ⟨matched, fun met => ?_⟩
  rw [score?, score?, if_pos met, if_pos (matched ▸ met)] at same
  rw [Option.some.inj same]
  exact .refl other.value

theorem Explanation.Alike.rel_score {explanation other : Explanation}
    (alike : explanation.Alike other) : Option.Rel SameNumber explanation.score? other.score? := by
  unfold score?
  rw [← alike.1]
  split
  · rename_i met
    exact .some (alike.2 met)
  · exact .none

namespace Plan

variable {index : Index} {similarity : Similarity} {doc : DocId}

theorem unsigned_sumForNormalization {plans : List Plan} {sum : Float32} (plus : Unsigned sum)
    (each : ∀ plan ∈ plans, Unsigned plan.valueForNormalization) :
    Unsigned (sumForNormalization sum plans) := by
  induction plans generalizing sum with
  | nil => exact plus
  | cons plan rest ih =>
    rw [List.forall_mem_cons] at each
    exact ih (plus.add each.1) each.2

/-- A sum of squares has no minus sign. -/
theorem unsigned_valueForNormalization (plan : Plan) : Unsigned plan.valueForNormalization := by
  induction plan with
  | matchNone => exact unsigned_zero
  | leaf clause => exact unsigned_square _
  | conjunction plans ih => exact unsigned_sumForNormalization unsigned_zero ih
  | disjunction plans ih => exact unsigned_sumForNormalization unsigned_zero ih

theorem sumForNormalization_singleton (plan : Plan) :
    sumForNormalization 0.0 [plan] = plan.valueForNormalization :=
  (unsigned_valueForNormalization plan).zero_add

theorem queryNorm_conjunction_singleton (plan : Plan) :
    (conjunction [plan]).queryNorm = plan.queryNorm := by
  rw [queryNorm, queryNorm, valueForNormalization, sumForNormalization_singleton]

theorem queryNorm_disjunction_singleton (plan : Plan) :
    (disjunction [plan]).queryNorm = plan.queryNorm := by
  rw [queryNorm, queryNorm, valueForNormalization, sumForNormalization_singleton]

/-- The sum of one value, as an explanation has it. -/
theorem sameNumber_sumValues (part : Explanation) :
    SameNumber part.value (sumValues [part]) :=
  (sameNumber_zero_add part.value).symm

theorem alike_explainAll (part : Explanation) : part.Alike (explainAll [part]) := by
  unfold explainAll
  by_cases matched : part.isMatch = true
  · rw [if_pos (by simpa using matched)]
    exact ⟨matched, fun _ => sameNumber_sumValues part⟩
  · rw [if_neg (by simpa using matched)]
    exact ⟨Bool.eq_false_iff.mpr matched, fun met => absurd met matched⟩

/-- One part that matches is the whole of a disjunction, so that its share is one. -/
theorem alike_explainAny (part : Explanation) : part.Alike (explainAny [part]) := by
  unfold explainAny
  by_cases matched : part.isMatch = true
  · have whole : (Similarity.coord 1 1 == 1.0) = true := by decide +kernel
    simp only [List.filter_cons, matched, ↓reduceIte, List.filter_nil, List.isEmpty_cons,
      List.length_singleton, whole, Bool.false_eq_true]
    exact ⟨matched, fun _ => sameNumber_sumValues part⟩
  · simp only [List.filter_cons, matched, Bool.false_eq_true, ↓reduceIte, List.filter_nil,
      List.isEmpty_nil]
    exact ⟨Bool.eq_false_iff.mpr matched, fun met => absurd met matched⟩

/-- A plan and another one are answered alike for a document. -/
def AnswersAlike (index : Index) (similarity : Similarity) (plan other : Plan) (doc : DocId) :
    Prop :=
  ∃ explanation counterpart : Explanation, explanation.Alike counterpart ∧
    plan.explain index similarity doc = .ok explanation ∧
    other.explain index similarity doc = .ok counterpart ∧
    plan.score index similarity doc = .ok explanation.score? ∧
    other.score index similarity doc = .ok counterpart.score?

variable {plan : Plan}

theorem explainParts_singleton {part : Explanation}
    (explained : plan.explain index similarity doc = .ok part) :
    explainParts index similarity doc [plan] = .ok [part] := by
  rw [explainParts, explained, Fault.ok_bind, explainParts, Fault.ok_bind, Fault.pure_eq_ok]

theorem forall_singleton {found : Option Float32}
    (scored : plan.score index similarity doc = .ok found) :
    ∀ part ∈ [plan], part.score index similarity doc = .ok ((fun _ => found) part) := by
  simpa using scored

theorem answersAlike_conjunction (placed : ∀ clause ∈ plan.clauses, clause.matcher.Placed)
    (coherent : ∀ clause ∈ plan.clauses, clause.weight.Coherent) :
    plan.AnswersAlike index similarity (.conjunction [plan]) doc := by
  obtain ⟨part, explained, scored⟩ := exists_explanation placed coherent doc
  refine ⟨part, explainAll [part], alike_explainAll part, explained, ?_, scored, ?_⟩
  · rw [explain, explainParts_singleton explained, Fault.map_ok]
  · rw [score_conjunction_eq_ok (forall_singleton scored), score_explainAll]
    simp only [List.all_cons, List.all_nil, Bool.and_true]
    rfl

theorem answersAlike_disjunction (placed : ∀ clause ∈ plan.clauses, clause.matcher.Placed)
    (coherent : ∀ clause ∈ plan.clauses, clause.weight.Coherent) :
    plan.AnswersAlike index similarity (.disjunction [plan]) doc := by
  obtain ⟨part, explained, scored⟩ := exists_explanation placed coherent doc
  refine ⟨part, explainAny [part], alike_explainAny part, explained, ?_, scored, ?_⟩
  · rw [explain, explainParts_singleton explained, Fault.map_ok]
  · rw [score_disjunction_eq_ok (forall_singleton scored), score_explainAny]
    rfl

/-- Nothing is found among no parts either. -/
theorem answersAlike_disjunction_nil :
    matchNone.AnswersAlike index similarity (.disjunction []) doc :=
  ⟨.noMatch .matchesNothing [], explainAny [], ⟨rfl, nofun⟩, by rw [explain], by rw [explain]; rfl,
    by rw [score]; rfl, by rw [score]; rfl⟩

theorem AnswersAlike.refl (placed : ∀ clause ∈ plan.clauses, clause.matcher.Placed)
    (coherent : ∀ clause ∈ plan.clauses, clause.weight.Coherent) :
    plan.AnswersAlike index similarity plan doc := by
  obtain ⟨part, explained, scored⟩ := exists_explanation placed coherent doc
  exact ⟨part, part, ⟨rfl, fun _ => .refl part.value⟩, explained, explained, scored, scored⟩

end Plan

/-- Two queries that no caller can tell apart by a document: both are answered, with scores and
explanations that are alike, or both fail. -/
def Index.AnswersAlike (index : Index) (similarity : Similarity) (query other : Query)
    (doc : DocId) : Prop :=
  (∃ found twin explanation counterpart,
    index.score similarity query doc = .ok found ∧ index.score similarity other doc = .ok twin ∧
    Option.Rel SameNumber found twin ∧
    index.explain similarity query doc = .ok explanation ∧
    index.explain similarity other doc = .ok counterpart ∧
    explanation.isMatch = counterpart.isMatch) ∨
  UInt64.size ≤ index.maxDoc + 2 ∧
    index.score similarity query doc = .error .additionOverflow ∧
    index.score similarity other doc = .error .additionOverflow ∧
    index.explain similarity query doc = .error .additionOverflow ∧
    index.explain similarity other doc = .error .additionOverflow

def Clause.asPhrase (clause : Clause) (token : Token) (slop : UInt32) (description : String) :
    Clause :=
  { clause with matcher := .phrase [token.term] [0] slop, description }

namespace Plan

variable {index : Index} {similarity : Similarity} {doc : DocId}

/-- The plan of a term as that of a phrase of that one word. -/
def asPhrase (token : Token) (slop : UInt32) (description : String) : Plan → Plan
  | .leaf clause => .leaf (clause.asPhrase token slop description)
  | plan => plan

/-- A word that stands in a field less than `2 ^ 24` times is counted in one go and one by one with
the same result. -/
theorem answersAlike_asPhrase {field : String} {token : Token} {plan : Plan}
    (binds : plan.Binds index (.ofTerm field token.term))
    (coherent : ∀ clause ∈ plan.clauses, clause.weight.Coherent)
    (few : ∀ id, (index.positions doc id token.term).length < 2 ^ 24) (slop : UInt32)
    (description : String) :
    plan.AnswersAlike index similarity (plan.asPhrase token slop description) doc := by
  cases binds with
  | unknownTerm unknown =>
    exact .refl nofun nofun
  | @term _ _ _ clause known looks =>
    rw [clauses, List.forall_mem_singleton] at coherent
    have same : (clause.asPhrase token slop description).score index similarity doc =
        clause.score index similarity doc := by
      unfold Clause.score Clause.freq
      rw [looks]
      simp only [Clause.asPhrase, List.map_singleton, Phrase.freq_singleton (few clause.field)]
      rfl
    have placed : clause.matcher.Placed := by
      rw [looks]
      trivial
    have other : (clause.asPhrase token slop description).matcher.Placed := rfl
    obtain ⟨part, explained, scored⟩ :=
      @Clause.exists_explanation index similarity _ placed coherent doc
    obtain ⟨twin, retold, rescored⟩ :=
      @Clause.exists_explanation index similarity _ other coherent doc
    have alike : part.Alike twin := by
      apply Explanation.alike_of_score
      rw [same, scored] at rescored
      exact Except.ok.inj rescored
    refine ⟨part, twin, alike, ?_, ?_, ?_, ?_⟩
    · rw [explain, explained]
    · rw [asPhrase, explain, retold]
    · rw [score, scored]
    · rw [asPhrase, score, rescored]

end Plan

namespace Index

variable {index : Index} {similarity : Similarity} {doc : DocId}

theorem plan_conjunction_singleton (query : Query) :
    index.plan similarity (.conjunction [query]) =
      (fun plan => .conjunction [plan]) <$> index.plan similarity query := by
  unfold plan
  rw [Plan.ofQuery, Plan.ofQueries, Plan.ofQueries]
  cases Plan.ofQuery index similarity query with
  | error reason => rfl
  | ok bound =>
    simp only [Fault.ok_bind, Fault.pure_eq_ok, Fault.map_ok,
      Plan.queryNorm_conjunction_singleton]
    rfl

theorem plan_disjunction_singleton (query : Query) :
    index.plan similarity (.disjunction [query]) =
      (fun plan => .disjunction [plan]) <$> index.plan similarity query := by
  unfold plan
  rw [Plan.ofQuery, Plan.ofQueries, Plan.ofQueries]
  cases Plan.ofQuery index similarity query with
  | error reason => rfl
  | ok bound =>
    simp only [Fault.ok_bind, Fault.pure_eq_ok, Fault.map_ok,
      Plan.queryNorm_disjunction_singleton]
    rfl

theorem plan_phrase_nil (field : String) (slop : UInt32) :
    index.plan similarity (.phrase field [] slop 1.0) = .ok .matchNone := by
  unfold plan
  rw [Plan.ofQuery]
  cases index.schema.find? field <;> rfl

theorem plan_phrase_singleton (field : String) (token : Token) (slop : UInt32) :
    index.plan similarity (.phrase field [token] slop 1.0) =
      Plan.asPhrase token slop (Query.text (.phrase field [token] slop 1.0)) <$>
        index.plan similarity (.ofTerm field token.term) := by
  unfold plan Query.ofTerm
  rw [Plan.ofQuery, Plan.ofQuery]
  cases index.schema.find? field with
  | none => rfl
  | some id =>
    have least : firstPosition? [token] = some token.position := rfl
    have offset : token.position - token.position = 0 := UInt32.sub_self token.position
    simp only [Matcher.ofTokens?_eq_ok, least, Option.map_some, Fault.ok_bind, Matcher.ofPhrase,
      List.map_singleton, offset, Clause.ofMatcher, Matcher.terms]
    cases similarity.clauseWeight (index.fieldStatistics id)
      [index.termStatistics id token.term] with
    | error reason => rfl
    | ok weight => rfl

theorem AnswersAlike.of_plans {query other : Query} {plan twin : Plan}
    (planned : index.plan similarity query = .ok plan)
    (bound : index.plan similarity other = .ok twin)
    (alike : plan.AnswersAlike index similarity twin doc) :
    index.AnswersAlike similarity query other doc := by
  obtain ⟨explanation, counterpart, same, explained, retold, scored, rescored⟩ := alike
  refine Or.inl ⟨explanation.score?, counterpart.score?, explanation, counterpart, ?_, ?_,
    same.rel_score, ?_, ?_, same.1⟩
  · rw [Index.score, planned, Fault.ok_bind, scored]
  · rw [Index.score, bound, Fault.ok_bind, rescored]
  · rw [Index.explain, planned, Fault.ok_bind, explained]
  · rw [Index.explain, bound, Fault.ok_bind, retold]

theorem AnswersAlike.of_failures {query other : Query} (full : UInt64.size ≤ index.maxDoc + 2)
    (failed : index.plan similarity query = .error .additionOverflow)
    (lost : index.plan similarity other = .error .additionOverflow) :
    index.AnswersAlike similarity query other doc := by
  refine Or.inr ⟨full, ?_, ?_, ?_, ?_⟩
  · rw [Index.score, failed, Fault.error_bind]
  · rw [Index.score, lost, Fault.error_bind]
  · rw [Index.explain, failed, Fault.error_bind]
  · rw [Index.explain, lost, Fault.error_bind]

/-- A query that is bound to a plan made of that of another query is answered like the other one,
if the plans are. -/
theorem AnswersAlike.of_change (sound : index.Sound) {query other : Query} {change : Plan → Plan}
    (changed : index.plan similarity other = change <$> index.plan similarity query)
    (alike : ∀ plan, index.plan similarity query = .ok plan →
      plan.AnswersAlike index similarity (change plan) doc) :
    index.AnswersAlike similarity query other doc := by
  rcases sound.plan_cases similarity query with ⟨plan, planned, -⟩ | ⟨failed, full⟩
  · rw [planned, Fault.map_ok] at changed
    exact .of_plans planned changed (alike plan planned)
  · rw [failed] at changed
    exact .of_failures full failed changed

theorem AnswersAlike.refl (sound : index.Sound) (query : Query) :
    index.AnswersAlike similarity query query doc := by
  have same : index.plan similarity query = id <$> index.plan similarity query := (id_map _).symm
  apply AnswersAlike.of_change sound same
  intro plan planned
  exact .refl (binds_of_plan planned).placed (coherent_of_plan planned)

/-- A query for all of several is answered like their conjunction, unless there are none. -/
theorem answersAlike_all (sound : index.Sound) {queries : List Query} (some : queries ≠ []) :
    index.AnswersAlike similarity (.all queries) (.conjunction queries) doc := by
  match queries with
  | [] => exact absurd rfl some
  | [query] =>
    apply AnswersAlike.of_change sound (plan_conjunction_singleton query)
    intro plan planned
    exact Plan.answersAlike_conjunction (binds_of_plan planned).placed (coherent_of_plan planned)
  | first :: second :: rest => exact .refl sound _

/-- A query for any of several is answered like their disjunction. -/
theorem answersAlike_any (sound : index.Sound) (queries : List Query) :
    index.AnswersAlike similarity (.any queries) (.disjunction queries) doc := by
  match queries with
  | [] => exact .of_plans rfl rfl Plan.answersAlike_disjunction_nil
  | [query] =>
    apply AnswersAlike.of_change sound (plan_disjunction_singleton query)
    intro plan planned
    exact Plan.answersAlike_disjunction (binds_of_plan planned).placed (coherent_of_plan planned)
  | first :: second :: rest => exact .refl sound _

/-- A query for words is answered like the phrase of these words, as long as they can be
counted. -/
theorem answersAlike_ofTokens (sound : index.Sound)
    (few : ∀ id term, (index.positions doc id term).length < 2 ^ 24) (field : String)
    (tokens : List Token) (slop : UInt32) :
    index.AnswersAlike similarity (.ofTokens field tokens slop) (.phrase field tokens slop 1.0)
      doc := by
  match tokens with
  | [] => exact .of_plans rfl (plan_phrase_nil field slop) (.refl nofun nofun)
  | [token] =>
    apply AnswersAlike.of_change sound (plan_phrase_singleton field token slop)
    intro plan planned
    exact Plan.answersAlike_asPhrase (binds_of_plan planned) (coherent_of_plan planned)
      (fun id => few id token.term) slop _
  | first :: second :: rest => exact .refl sound _

/-- After a run the shorter queries are answered like those they stand for: the same documents
match, with scores that compare as equal. A conjunction has to have a part for that. -/
theorem shortcuts_answer_alike {weighed : Similarity} {operations : List Operation}
    (reached : run weighed operations = .ok index) (similarity : Similarity) (doc : DocId)
    (few : ∀ field term, (index.positions doc field term).length < 2 ^ 24) :
    (∀ queries, queries ≠ [] →
      index.AnswersAlike similarity (.all queries) (.conjunction queries) doc) ∧
    (∀ queries, index.AnswersAlike similarity (.any queries) (.disjunction queries) doc) ∧
    ∀ field tokens slop, index.AnswersAlike similarity (.ofTokens field tokens slop)
      (.phrase field tokens slop 1.0) doc := by
  have sound : index.Sound := sound_of_run reached
  exact ⟨fun queries some => answersAlike_all sound some, answersAlike_any sound,
    answersAlike_ofTokens sound few⟩

theorem shelf_shortcuts_answer_alike : ∃ index, run .smoothed shelf = .ok index ∧
    (∀ field term, (index.positions 2 field term).length < 2 ^ 24) ∧
    index.AnswersAlike .classic (.all [.ofTerm "title" (.ofString "hen")])
      (.conjunction [.ofTerm "title" (.ofString "hen")]) 2 := by
  obtain ⟨index, reached, -⟩ := exists_run_shelf
  have few : ∀ field term, (index.positions 2 field term).length < 2 ^ 24 := by
    intro field term
    have below := (within_of_run reached).length_positions_le (sound_of_run reached) 2 field term
    exact Nat.lt_of_le_of_lt below (by decide)
  exact ⟨index, reached, few,
    (shortcuts_answer_alike reached .classic 2 few).1 _ (List.cons_ne_nil _ _)⟩

/-- A conjunction of nothing gives a score even to a document that is not there, and what it is
made shorter to does not. -/
theorem empty_conjunction_answered_otherwise : ∃ index, run .smoothed shelf = .ok index ∧
    (∀ field term, (index.positions 0 field term).length < 2 ^ 24) ∧
    index.document? 0 = none ∧
    index.score .classic (.all []) 0 = .ok none ∧
    index.score .classic (.conjunction []) 0 = .ok (some 0.0) ∧
    ¬ index.AnswersAlike .classic (.all []) (.conjunction []) 0 := by
  obtain ⟨index, reached, three, -⟩ := exists_run_shelf
  have removed : (run .smoothed shelf).toOption.map (fun index => (index.document? 0).isNone) =
      some true := by decide +kernel
  rw [reached] at removed
  have few : ∀ field term, (index.positions 0 field term).length < 2 ^ 24 := by
    intro field term
    have below := (within_of_run reached).length_positions_le (sound_of_run reached) 0 field term
    exact Nat.lt_of_le_of_lt below (by decide)
  refine ⟨index, reached, few, Option.isNone_iff_eq_none.mp (Option.some.inj removed), rfl, rfl, ?_⟩
  intro alike
  rcases alike with ⟨found, twin, _, _, scored, other, same, -⟩ | ⟨full, -⟩
  · cases scored
    cases other
    cases same
  · rw [three] at full
    exact absurd full (by decide)

end Index

end Relevance
