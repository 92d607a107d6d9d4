import Relevance.Proofs.Numeric.Counting
import Relevance.Proofs.Query.Selection
import Relevance.Proofs.Query.Weights

set_option autoImplicit false

namespace Relevance

open Rounding

/-- A phrase is counted like anything else, up to the last count that is not rounded. -/
theorem Phrase.exists_count_of_exactFreq {positions : List (List UInt32)} {offsets : List UInt32}
    {freq : Float32} (placed : offsets.length = positions.length)
    (success : exactFreq positions offsets = .ok freq) :
    ∃ count ≤ 2 ^ 24, freq = countToSingle count := by
  match positions, offsets, placed with
  | [], [], _ =>
    cases success
    exact ⟨0, Nat.zero_le _, Single.countToSingle_zero.symm⟩
  | starts :: rest, offset :: offsets, _ =>
    rw [exactFreq_eq_ok, Single.sum_ones_eq_count] at success
    cases success
    exact ⟨_, Nat.min_le_right _ _, rfl⟩

variable {index : Index} {similarity weighed : Similarity} {operations : List Operation}
  {doc : DocId}

namespace Clause

variable {clause : Clause}

theorem exists_count (sound : index.Sound) (placed : clause.matcher.Placed)
    (exact : clause.matcher.Exact) {freq : Float32}
    (counted : clause.freq index doc = .ok freq) :
    ∃ count < UInt64.size, freq = countToSingle count := by
  cases looks : clause.matcher with
  | term wanted =>
    rw [freq_of_term looks] at counted
    cases counted
    exact ⟨_, sound.length_positions_lt doc clause.field wanted, rfl⟩
  | phrase terms offsets slop =>
    rw [looks] at placed exact
    have zero : slop = 0 := exact
    rw [freq_of_phrase looks, Phrase.freq, if_pos zero] at counted
    split at counted
    · cases counted
      exact ⟨0, by decide, Single.countToSingle_zero.symm⟩
    · have lengths : offsets.length = (terms.map (index.positions doc clause.field)).length := by
        rw [List.length_map]
        exact placed
      obtain ⟨count, few, same⟩ := Phrase.exists_count_of_exactFreq lengths counted
      have fits : 2 ^ 24 < UInt64.size := by decide
      exact ⟨count, by omega, same⟩

/-- A document with a clause counts at least one occurrence. -/
theorem spans_freq (sound : index.Sound) (placed : clause.matcher.Placed)
    (exact : clause.matcher.Exact) {freq : Float32}
    (counted : clause.freq index doc = .ok freq) (some : ¬ freq ≤ 0.0) :
    Single.Spans 0 64 freq := by
  obtain ⟨count, fits, rfl⟩ := exists_count sound placed exact counted
  apply Single.spans_countToSingle _ fits
  apply Nat.pos_of_ne_zero
  rintro rfl
  exact some (Single.countToSingle_zero ▸ Single.zero_le_zero)

/-- The score of a clause, of which every factor is within its range. -/
theorem spans_score (reached : Index.run weighed operations = .ok index)
    (room : index.schema.fields.length ≤ UInt32.size) (placed : clause.matcher.Placed)
    (exact : clause.matcher.Exact)
    (weight : Single.Spans (-82) 29 clause.weight.value) {score : Float32}
    (scored : clause.score index similarity doc = .ok (some score)) :
    Single.Spans (-98) 95 score := by
  obtain ⟨freq, counted, done⟩ := Fault.bind_eq_ok_iff.mp scored
  split at done
  · cases done
  rename_i positive
  cases done
  have counts := spans_freq (Index.sound_of_run reached) placed exact counted positive
  have raw : Single.Spans (-82) 62 (similarity.tf freq * clause.weight.value) :=
    (Similarity.spans_tf counts).mul weight (by decide) (by decide) (by decide) (by decide)
  have occurs : clause.Occurs index doc := ⟨freq, counted, positive⟩
  obtain ⟨term, member⟩ := List.exists_mem_of_ne_nil _ occurs.terms_ne_nil
  simp only [scorer, Scorer.score, Scorer.components, Similarity.score]
  cases kept : index.norms? clause.field with
  | none => exact raw.mono (by decide) (by decide)
  | some table =>
    have norm : Single.Spans (-16) 33 (Norm.decode (table.norm doc)) :=
      Index.spans_norm_of_run reached room (occurs.positions_ne_nil member) kept
    exact raw.mul norm (by decide) (by decide) (by decide) (by decide)

end Clause

namespace Plan

/-- The share of the parts that match makes a sum smaller, by no more than their number. -/
theorem spans_coordinated {lower higher : Int} {matched parts bits : Nat} {sum : Float32}
    (spans : Single.Spans lower higher sum) (least : -149 ≤ lower - bits) (finite : higher ≤ 127)
    (some : 0 < matched) (order : matched ≤ parts) (few : parts ≤ 2 ^ bits) (short : bits ≤ 24) :
    Single.Spans (lower - bits) higher (coordinated sum matched parts) := by
  unfold coordinated
  simp only
  split
  · exact spans.mono (by omega) (Int.le_refl _)
  · have share := Similarity.spans_coord some order few short
    exact spans.mul share least finite (by omega) (by omega)

/-- No score of a moderate plan leaves the range of singles. -/
theorem Moderate.spans_score (reached : Index.run weighed operations = .ok index)
    (room : index.schema.fields.length ≤ UInt32.size) {bits : Nat} {plan : Plan}
    (moderate : plan.Moderate bits) (small : bits ≤ 30)
    (placed : ∀ clause ∈ plan.clauses, clause.matcher.Placed)
    (weights : ∀ clause ∈ plan.clauses, Single.Spans (-82) 29 clause.weight.value)
    {score : Float32} (scored : plan.score index similarity doc = .ok (some score)) :
    Single.Spans (-98 - bits) (95 + bits) score := by
  induction moderate generalizing score with
  | matchNone => cases scored
  | leaf moderate =>
    rw [clauses, List.forall_mem_singleton] at placed weights
    rw [Plan.score] at scored
    have own := Clause.spans_score reached room placed moderate.exact weights scored
    exact own.mono (by omega) (by omega)
  | @disjunction bits more plans few short _ ih =>
    rw [forall_clauses_disjunction] at placed weights
    have each : ∀ plan ∈ plans, ∃ found, plan.score index similarity doc = .ok found := by
      intro plan member
      obtain ⟨found, done, -⟩ : ∃ found, plan.score index similarity doc = .ok found ∧
          (found.isSome ↔ plan.Matches index doc) := exists_score (placed plan member) doc
      exact ⟨found, done⟩
    choose! found done using each
    rw [score_disjunction_eq_ok done] at scored
    have parts : ∀ part ∈ plans.filterMap found,
        Single.Spans (-98 - bits) (95 + bits) part := by
      intro part member
      obtain ⟨plan, inside, has⟩ := List.mem_filterMap.mp member
      have reads := done plan inside
      rw [has] at reads
      exact ih plan inside (by omega) (placed plan inside) (weights plan inside) reads
    have length : (plans.filterMap found).length ≤ plans.length := List.length_filterMap_le _ _
    split at scored
    · cases scored
    rename_i some
    cases scored
    have positive : 0 < (plans.filterMap found).length := Nat.pos_of_ne_zero some
    have sum : Single.Spans (-98 - bits) (95 + bits + more)
        ((plans.filterMap found).foldl (· + ·) 0.0) :=
      Single.spans_sum (by omega) (by omega) short (length.trans few)
        (List.ne_nil_of_length_pos positive) parts
    have whole := spans_coordinated sum (by omega) (by omega) positive length few short
    exact whole.mono (by omega) (by omega)

end Plan

namespace Index

/-- The scores of all hits of a moderate query stay within the range of singles. -/
theorem spans_hit (reached : run weighed operations = .ok index)
    (room : index.schema.fields.length ≤ UInt32.size) {query : Query} {plan : Plan}
    {bits : Nat} (moderate : query.Moderate bits) (small : bits ≤ 30)
    (planned : index.plan similarity query = .ok plan) {hits : List ScoredDoc}
    (found : plan.hits index similarity = .ok hits) {hit : ScoredDoc} (member : hit ∈ hits) :
    Single.Spans (-98 - bits) (95 + bits) hit.score := by
  have placed := (binds_of_plan planned).placed
  obtain ⟨bound, success, done⟩ := Fault.bind_eq_ok_iff.mp planned
  cases done
  have sound := sound_of_run reached
  have weighs := Plan.moderate_of_ofQuery sound moderate success
  have fresh : ∀ clause ∈ bound.clauses, clause.Fresh :=
    Plan.forall_clauses_of_ofQuery (fun _ _ _ _ _ => Clause.fresh_of_ofMatcher) success
  have each : ∀ doc, ∃ score, (bound.normalize bound.queryNorm).score index similarity doc =
      .ok score ∧ (score.isSome ↔ (bound.normalize bound.queryNorm).Matches index doc) :=
    Plan.exists_score placed
  choose score scored matched using each
  rw [Plan.hits_eq_ok scored] at found
  cases found
  obtain ⟨doc, -, same⟩ := List.mem_filterMap.mp member
  obtain ⟨amount, has, rfl⟩ := Option.map_eq_some_iff.mp same
  apply (weighs.normalize bound.queryNorm).spans_score reached room small placed
    (weighs.spans_value small fresh)
  rw [scored, has]

/-- If every field has a boost between a millionth and a million, all hits of a written query have
finite scores above zero, and a ranking passes over none of them. The sum of the squared weights
grows with the length of the query and with the number of fields too, so those are bounded as well;
and no number of a field is given out twice, since that would set its norms back. -/
theorem hits_of_text_usable (reached : run weighed operations = .ok index)
    (room : index.schema.fields.length ≤ UInt32.size) (similarity : Similarity)
    (analyzer : Analyzer) {text : String} {fields : List String} (brief : text.length ≤ 2 ^ 20)
    (few : fields.length ≤ 2 ^ 10)
    (boosts : ∀ field ∈ fields, 1e-6 ≤ (SearchField.read field).boost ∧
      (SearchField.read field).boost ≤ 1e6) :
    ∃ query, Query.ofText text fields analyzer = .ok query ∧
      ((∃ hits : List ScoredDoc,
        (∀ {α : Type} (collector : Collector α) (start : α),
          index.search similarity query collector start =
            .ok (collector.collectAll hits start)) ∧
        (∀ hit ∈ hits, hit.score.isFinite = true ∧ 0.0 < hit.score) ∧
        ∀ limit, (Collector.ranking limit).collectAll hits [] =
          (Ranking.ofHits hits).take limit) ∨
      UInt64.size ≤ index.maxDoc + 2 ∧
        ∀ {α : Type} (collector : Collector α) (start : α),
          index.search similarity query collector start = .error .additionOverflow) := by
  refine ⟨_, Query.ofText_of_readable fields analyzer
    (Query.readable_of_length brief (by decide)), ?_⟩
  have moderate : (Query.asked text fields analyzer).Moderate (0 + 10 + 20) :=
    Query.moderate_asked brief few boosts
  have sound : index.Sound := sound_of_run reached
  rcases sound.plan_cases similarity (.asked text fields analyzer) with
    ⟨plan, planned, binds⟩ | ⟨failed, overflow⟩
  case inr => exact Or.inr ⟨overflow, (plan_eq_error failed).2⟩
  left
  obtain ⟨hits, found, -⟩ : ∃ hits, plan.hits index similarity = .ok hits ∧ _ :=
    Plan.exists_hits binds.placed
  have usable : ∀ hit ∈ hits, hit.score.isFinite = true ∧ 0.0 < hit.score := by
    intro hit member
    have spans := spans_hit reached room moderate (by decide) planned found member
    exact ⟨spans.isFinite, spans.zero_lt⟩
  refine ⟨hits, search_eq_ok planned found, usable, fun limit => ?_⟩
  apply Collector.collectAll_ranking
  intro hit member
  exact Single.isNaN_of_isFinite (usable hit member).1

/-- A word and a phrase, in a field with a boost and in one that there is not. -/
def boostedSearch : Except Fault Query :=
  Query.ofText "hen \"a RED\"" ["title^2.5", "name"] .standard

theorem shelf_hits_usable : ∃ query index hits, boostedSearch = .ok query ∧
    run .smoothed shelf = .ok index ∧
    index.search .classic query (.ranking 9) [] =
      .ok ((Collector.ranking 9).collectAll hits []) ∧
    hits.length = 1 ∧ (∀ hit ∈ hits, hit.score.isFinite = true ∧ 0.0 < hit.score) ∧
    (Collector.ranking 9).collectAll hits [] = (Ranking.ofHits hits).take 9 := by
  obtain ⟨index, reached, three, -⟩ := exists_run_shelf
  have boosts : ∀ field ∈ ["title^2.5", "name"], 1e-6 ≤ (SearchField.read field).boost ∧
      (SearchField.read field).boost ≤ 1e6 := by decide +kernel
  have brief : "hen \"a RED\"".length ≤ 2 ^ 20 := by decide
  have counted : (run .smoothed shelf).toOption.bind (fun index => (do
      index.search .classic (← boostedSearch) .count 0).toOption) = some 1 := by decide +kernel
  have room : index.schema.fields.length ≤ UInt32.size := by
    rw [schema_of_run reached]
    decide +kernel
  obtain ⟨query, success, ⟨hits, searched, usable, ranked⟩ | ⟨overflow, -⟩⟩ :=
    hits_of_text_usable reached room .classic .standard brief (by decide) boosts
  · have answer : index.search .classic query .count 0 = .ok (0 + hits.length) := by
      rw [← Collector.collectAll_count]
      exact searched .count 0
    rw [reached, Except.toOption, Option.bind_some, boostedSearch, success, Fault.ok_bind, answer,
      Nat.zero_add] at counted
    exact ⟨query, index, hits, success, reached, searched _ _, Option.some.inj counted, usable,
      ranked 9⟩
  · rw [three] at overflow
    exact absurd overflow (by decide)

/-- A boost may be any finite number above zero. One that is too large makes the sum of the squares
infinite and the query norm zero, and all hits have a score of zero. -/
theorem shelf_hits_of_huge_boost : (SearchField.read "title^1e20").boost.isFinite = true ∧
    (0.0 : Float32) < (SearchField.read "title^1e20").boost ∧
    ∃ query index, Query.ofText "hen" ["title^1e20"] .standard = .ok query ∧
      run .smoothed shelf = .ok index ∧
      index.search .smoothed query (.ranking 9) [] = .ok [⟨2, 0.0⟩] ∧
      ¬ (0.0 : Float32) < 0.0 := by
  obtain ⟨index, reached, -⟩ := exists_run_shelf
  have read : Query.ofText "hen" ["title^1e20"] .standard =
      .ok (.asked "hen" ["title^1e20"] .standard) :=
    Query.ofText_of_readable _ _ (Query.readable_of_length (Nat.le_refl _) (by decide))
  have answer : (run .smoothed shelf).toOption.bind (fun index =>
      (index.search .smoothed (.asked "hen" ["title^1e20"] .standard) (.ranking 9) []).toOption) =
        some [⟨2, 0.0⟩] := by decide +kernel
  rw [reached, Except.toOption, Option.bind_some] at answer
  refine ⟨by decide +kernel, by decide +kernel, _, index, read, reached, ?_, by decide +kernel⟩
  cases searched : index.search .smoothed (.asked "hen" ["title^1e20"] .standard) (.ranking 9) []
    with
  | error reason =>
    rw [searched] at answer
    cases answer
  | ok kept =>
    rw [searched] at answer
    cases answer
    rfl

end Index

end Relevance
