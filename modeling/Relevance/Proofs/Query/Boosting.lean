import Mathlib.Logic.Relation
import Relevance.Proofs.Query.Searching

set_option autoImplicit false

namespace Relevance

namespace Query

/-- A boost put on a query or on one inside it. -/
inductive Boosts : Query → Query → Prop
  | here (query : Query) (factor : Float32) : Boosts query (query.boost factor)
  | conjunction {query other : Query} (before after : List Query) (inside : Boosts query other) :
    Boosts (.conjunction (before ++ query :: after)) (.conjunction (before ++ other :: after))
  | disjunction {query other : Query} (before after : List Query) (inside : Boosts query other) :
    Boosts (.disjunction (before ++ query :: after)) (.disjunction (before ++ other :: after))

/-- Boosts put on a query and on those inside it, one after another. -/
def Boosted : Query → Query → Prop :=
  Relation.ReflTransGen Boosts

end Query

namespace Plan

variable {index : Index} {similarity : Similarity} {query other : Query} {plan twin : Plan}

/-- Whoever looks for what a boosted query asks for looks for what the query asks for. -/
theorem Binds.of_scaleBoost {factor : Float32} (binds : Binds index (query.scaleBoost factor) plan) :
    Binds index query plan := by
  induction query generalizing plan with
  | matchNone => exact binds
  | term field wanted boost =>
    cases binds with
    | unknownTerm unknown => exact .unknownTerm unknown
    | term known looks => exact .term known looks
  | phrase field tokens slop boost =>
    cases binds with
    | unknownPhrase unknown => exact .unknownPhrase unknown
    | emptyPhrase => exact .emptyPhrase
    | phrase known least looks => exact .phrase known least looks
  | conjunction queries ih =>
    rw [Query.scaleBoost, Query.scaleBoostAll_eq_map] at binds
    cases binds with
    | conjunction parts =>
      rw [List.forall₂_map_left_iff] at parts
      exact .conjunction (forall₂_of_mem parts fun query member _ => ih query member)
  | disjunction queries ih =>
    rw [Query.scaleBoost, Query.scaleBoostAll_eq_map] at binds
    cases binds with
    | disjunction parts =>
      rw [List.forall₂_map_left_iff] at parts
      exact .disjunction (forall₂_of_mem parts fun query member _ => ih query member)

theorem Binds.of_boost {factor : Float32} (binds : Binds index (query.boost factor) plan) :
    Binds index query plan := by
  unfold Query.boost at binds
  split at binds
  · exact binds
  · exact binds.of_scaleBoost

/-- One member of a list may be replaced by another that is related to no less. -/
theorem forall₂_replace {α β : Type} {relate : α → β → Prop} {before after : List α} {item other : α}
    {values : List β} (change : ∀ value, relate other value → relate item value)
    (related : List.Forall₂ relate (before ++ other :: after) values) :
    List.Forall₂ relate (before ++ item :: after) values := by
  induction before generalizing values with
  | nil =>
    cases related with
    | cons first rest => exact .cons (change _ first) rest
  | cons head _ ih =>
    cases related with
    | cons first rest => exact .cons first (ih rest)

theorem Binds.of_boosts (boosts : query.Boosts other) (binds : Binds index other plan) :
    Binds index query plan := by
  induction boosts generalizing plan with
  | here query factor => exact binds.of_boost
  | conjunction before after _ ih =>
    cases binds with
    | conjunction parts => exact .conjunction (forall₂_replace (fun _ => ih) parts)
  | disjunction before after _ ih =>
    cases binds with
    | disjunction parts => exact .disjunction (forall₂_replace (fun _ => ih) parts)

theorem Binds.of_boosted (boosted : query.Boosted other) (binds : Binds index other plan) :
    Binds index query plan := by
  induction boosted generalizing plan with
  | refl => exact binds
  | tail _ step ih => exact ih (binds.of_boosts step)

def renormalize (plan : Plan) (norms : List Float32) : Plan :=
  norms.foldl (fun plan norm => plan.normalize norm) plan

theorem Binds.renormalize (binds : Binds index query plan) (norms : List Float32) :
    Binds index query (plan.renormalize norms) := by
  induction norms generalizing plan with
  | nil => exact binds
  | cons norm rest ih => exact ih (binds.normalize norm)

end Plan

namespace Clause

variable {index : Index} {clause twin : Clause}

theorem candidates_congr (field : clause.field = twin.field) (matcher : clause.matcher = twin.matcher) :
    clause.candidates index = twin.candidates index := by
  simp only [candidates, field, matcher]

theorem occurs_congr (field : clause.field = twin.field) (matcher : clause.matcher = twin.matcher)
    (doc : DocId) : clause.Occurs index doc ↔ twin.Occurs index doc := by
  simp only [Occurs, freq, field, matcher]

end Clause

namespace Plan

variable {index : Index} {similarity : Similarity} {query other : Query} {plan twin : Plan}

structure Agrees (index : Index) (plan twin : Plan) : Prop where
  candidates_eq : plan.candidates index = twin.candidates index
  matches_iff : ∀ doc, plan.Matches index doc ↔ twin.Matches index doc

theorem agrees_refl (plan : Plan) : plan.Agrees index plan :=
  ⟨rfl, fun _ => Iff.rfl⟩

theorem agrees_leaf {clause twin : Clause} (field : clause.field = twin.field)
    (matcher : clause.matcher = twin.matcher) : (leaf clause).Agrees index (leaf twin) where
  candidates_eq := by
    rw [candidates, candidates]
    exact Clause.candidates_congr field matcher
  matches_iff doc := by
    rw [matches_leaf, matches_leaf]
    exact Clause.occurs_congr field matcher doc

variable {plans twins : List Plan}

theorem commonCandidates_congr (parts : List.Forall₂ (Agrees index) plans twins) (docs : DocSet) :
    commonCandidates index docs plans = commonCandidates index docs twins := by
  induction parts generalizing docs with
  | nil => rfl
  | cons first _ ih => rw [commonCandidates, commonCandidates, first.candidates_eq, ih]

theorem allCandidates_congr (parts : List.Forall₂ (Agrees index) plans twins) :
    allCandidates index plans = allCandidates index twins := by
  induction parts with
  | nil => rfl
  | cons first _ ih => rw [allCandidates, allCandidates, first.candidates_eq, ih]

theorem agrees_conjunction (parts : List.Forall₂ (Agrees index) plans twins) :
    (conjunction plans).Agrees index (conjunction twins) where
  candidates_eq := by
    cases parts with
    | nil => rfl
    | cons first rest =>
      rw [candidates, candidates, first.candidates_eq, commonCandidates_congr rest]
  matches_iff doc := by
    rw [matches_conjunction, matches_conjunction]
    induction parts with
    | nil => exact Iff.rfl
    | cons first _ ih =>
      rw [List.forall_mem_cons, List.forall_mem_cons, first.matches_iff, ih]

theorem agrees_disjunction (parts : List.Forall₂ (Agrees index) plans twins) :
    (disjunction plans).Agrees index (disjunction twins) where
  candidates_eq := by rw [candidates, candidates, allCandidates_congr parts]
  matches_iff doc := by
    rw [matches_disjunction, matches_disjunction]
    induction parts with
    | nil => exact Iff.rfl
    | cons first _ ih =>
      rw [List.exists_mem_cons_iff, List.exists_mem_cons_iff, first.matches_iff, ih]

/-- What two lists have in common with a third relates their members. -/
theorem forall₂_of_common {α β γ : Type} {left : α → β → Prop} {right : α → γ → Prop}
    {relate : β → γ → Prop} {items : List α} {firsts : List β} {seconds : List γ}
    (one : List.Forall₂ left items firsts) (two : List.Forall₂ right items seconds)
    (each : ∀ item ∈ items, ∀ first second, left item first → right item second →
      relate first second) : List.Forall₂ relate firsts seconds := by
  induction one generalizing seconds with
  | nil =>
    cases two
    exact .nil
  | cons first _ ih =>
    cases two with
    | cons second rest =>
      exact .cons (each _ List.mem_cons_self _ _ first second)
        (ih rest fun item later => each item (List.mem_cons_of_mem _ later))

/-- All plans for a query find the same documents, whatever weighs in them. -/
theorem Binds.agrees (binds : Binds index query plan) (bound : Binds index query twin) :
    plan.Agrees index twin := by
  induction query generalizing plan twin with
  | matchNone =>
    cases binds
    cases bound
    exact agrees_refl _
  | term field wanted boost =>
    cases binds with
    | unknownTerm unknown =>
      cases bound with
      | unknownTerm => exact agrees_refl _
      | term known => exact absurd (unknown.symm.trans known) nofun
    | term known looks =>
      cases bound with
      | unknownTerm unknown => exact absurd (unknown.symm.trans known) nofun
      | term named seeks =>
        exact agrees_leaf (Option.some.inj (known.symm.trans named)) (looks.trans seeks.symm)
  | phrase field tokens slop boost =>
    cases binds with
    | unknownPhrase unknown =>
      cases bound with
      | unknownPhrase => exact agrees_refl _
      | emptyPhrase => exact agrees_refl _
      | phrase known => exact absurd (unknown.symm.trans known) nofun
    | emptyPhrase =>
      cases bound with
      | unknownPhrase => exact agrees_refl _
      | emptyPhrase => exact agrees_refl _
      | phrase _ least => cases least
    | phrase known least looks =>
      cases bound with
      | unknownPhrase unknown => exact absurd (unknown.symm.trans known) nofun
      | emptyPhrase => cases least
      | phrase named first seeks =>
        obtain rfl := Option.some.inj (least.symm.trans first)
        exact agrees_leaf (Option.some.inj (known.symm.trans named)) (looks.trans seeks.symm)
  | conjunction queries ih =>
    cases binds with
    | conjunction parts =>
      cases bound with
      | conjunction others =>
        exact agrees_conjunction (forall₂_of_common parts others fun query member _ _ =>
          ih query member)
  | disjunction queries ih =>
    cases binds with
    | disjunction parts =>
      cases bound with
      | disjunction others =>
        exact agrees_disjunction (forall₂_of_common parts others fun query member _ _ =>
          ih query member)

/-- A plan hands on as many documents as there are candidates that it matches. -/
theorem exists_hits_length {plan : Plan} (placed : ∀ clause ∈ plan.clauses, clause.matcher.Placed)
    {matching : DocId → Bool} (matched : ∀ doc, matching doc ↔ plan.Matches index doc) :
    ∃ hits, plan.hits index similarity = .ok hits ∧
      hits.length = (plan.candidates index).toList.countP matching := by
  have each : ∀ doc, ∃ found, plan.score index similarity doc = .ok found ∧
      (found.isSome ↔ plan.Matches index doc) := exists_score placed
  choose found scored scores using each
  refine ⟨_, hits_eq_ok scored, ?_⟩
  rw [List.length_filterMap_eq_countP]
  refine List.countP_congr fun doc _ => ?_
  rw [Option.isSome_map, scores, matched]

/-- The candidates of a plan, the documents that have a score, and how many a collector counts. -/
structure Finds (index : Index) (similarity : Similarity) (candidates : DocSet)
    (matching : DocId → Bool) (total : Nat) (plan : Plan) : Prop where
  candidates_eq : plan.candidates index = candidates
  score_eq : ∀ doc, ∃ found, plan.score index similarity doc = .ok found ∧
    found.isSome = matching doc
  count_eq : ∃ hits, plan.hits index similarity = .ok hits ∧
    Collector.count.collectAll hits 0 = total

/-- Every plan for a query finds what one of them finds. -/
theorem Binds.finds {model : Plan} {matching : DocId → Bool} (binds : Binds index query model)
    (matched : ∀ doc, matching doc ↔ model.Matches index doc) (bound : Binds index query plan)
    (similarity : Similarity) :
    plan.Finds index similarity (model.candidates index) matching
      ((model.candidates index).toList.countP matching) := by
  have same : plan.Agrees index model := bound.agrees binds
  have matches_iff : ∀ doc, matching doc ↔ plan.Matches index doc :=
    fun doc => (matched doc).trans (same.matches_iff doc).symm
  constructor
  · exact same.candidates_eq
  · intro doc
    obtain ⟨found, scored, has⟩ : ∃ found, plan.score index similarity doc = .ok found ∧
        (found.isSome ↔ plan.Matches index doc) := exists_score bound.placed doc
    exact ⟨found, scored, Bool.eq_iff_iff.mpr (has.trans (matches_iff doc).symm)⟩
  · obtain ⟨hits, handed, counted⟩ : ∃ hits, plan.hits index similarity = .ok hits ∧
        hits.length = (plan.candidates index).toList.countP matching :=
      exists_hits_length bound.placed matches_iff
    refine ⟨hits, handed, ?_⟩
    rw [Collector.collectAll_count, Nat.zero_add, counted, same.candidates_eq]

end Plan

namespace Index

variable {index : Index}

/-- Boosts on a query and inside it, query norms and the similarity make no difference to the
candidates of a query, to which documents have a score, and to their number. A query that cannot be
bound has no room left in the counts of documents. -/
theorem matching_independent_of_weights {weighed : Similarity} {operations : List Operation}
    (reached : run weighed operations = .ok index) (query : Query) :
    ∃ (candidates : DocSet) (matching : DocId → Bool) (total : Nat),
      ∀ other, query.Boosted other → ∀ similarity : Similarity,
        (∃ plan, Plan.ofQuery index similarity other = .ok plan ∧
          (∀ (norms : List Float32) (scoring : Similarity),
            (plan.renormalize norms).Finds index scoring candidates matching total) ∧
          index.search similarity other .count 0 = .ok total) ∨
        UInt64.size ≤ index.maxDoc + 2 ∧
          Plan.ofQuery index similarity other = .error .additionOverflow := by
  classical
  have sound : index.Sound := sound_of_run reached
  have unbound : ∀ {other similarity reason}, Plan.ofQuery index similarity other = .error reason →
      UInt64.size ≤ index.maxDoc + 2 ∧
        Plan.ofQuery index similarity other = .error .additionOverflow := by
    intro other similarity reason failed
    obtain ⟨rfl, full⟩ := Plan.ofQuery_eq_error sound failed
    exact ⟨full, failed⟩
  by_cases some_plan : ∃ model, Plan.Binds index query model
  case neg =>
    refine ⟨∅, fun _ => false, 0, fun other boosted similarity => Or.inr ?_⟩
    cases bound : Plan.ofQuery index similarity other with
    | ok plan => exact absurd ⟨plan, (Plan.binds_of_ofQuery bound).of_boosted boosted⟩ some_plan
    | error reason => exact bound ▸ unbound bound
  obtain ⟨model, binds⟩ := some_plan
  obtain ⟨matching, matched⟩ : ∃ matching : DocId → Bool,
      ∀ doc, matching doc ↔ model.Matches index doc :=
    ⟨fun doc => decide (model.Matches index doc), fun _ => decide_eq_true_iff⟩
  refine ⟨model.candidates index, matching, (model.candidates index).toList.countP matching,
    fun other boosted similarity => ?_⟩
  cases bound : Plan.ofQuery index similarity other with
  | error reason => exact Or.inr (bound ▸ unbound bound)
  | ok plan =>
    have looks : Plan.Binds index query plan := (Plan.binds_of_ofQuery bound).of_boosted boosted
    refine Or.inl ⟨plan, rfl, fun norms scoring => binds.finds matched (looks.renormalize norms)
      scoring, ?_⟩
    -- A search normalises once, by the norm that it computes from the weights.
    obtain ⟨hits, handed, counted⟩ :=
      (binds.finds matched (looks.normalize plan.queryNorm) similarity).count_eq
    have planned : index.plan similarity other = .ok (plan.normalize plan.queryNorm) := by
      rw [Index.plan, bound, Fault.ok_bind]
      rfl
    rw [search_eq_ok planned handed, counted]

/-- The query of the shelf with no number as the boost of its second part, and all of it boosted
below zero. -/
def heavyQuery : Query := (Query.disjunction [
  .ofTerm "title" (.ofString "fox"),
  (Query.conjunction [
    .ofTerm "title" (.ofString "red"),
    .phrase "title" [⟨.ofString "red", 2⟩, ⟨.ofString "hen", 6⟩] 0 2.0]).boost (0.0 / 0.0)]).boost
  (-1.0 / 0.0)

theorem boosted_heavyQuery : shelfQuery.Boosted heavyQuery := by
  have part : shelfQuery.Boosts _ := .disjunction [.ofTerm "title" (.ofString "fox")] []
    (.here (.conjunction [.ofTerm "title" (.ofString "red"),
      .phrase "title" [⟨.ofString "red", 2⟩, ⟨.ofString "hen", 6⟩] 0 2.0]) (0.0 / 0.0))
  exact .tail (.single part) (.here _ (-1.0 / 0.0))

theorem shelf_matching_independent_of_weights : ∃ index candidates matching total plan twin,
    run .smoothed shelf = .ok index ∧
    Plan.ofQuery index .smoothed shelfQuery = .ok plan ∧
    Plan.ofQuery index .classic heavyQuery = .ok twin ∧
    Plan.Finds index .smoothed candidates matching total (plan.renormalize []) ∧
    Plan.Finds index .classic candidates matching total (twin.renormalize [-3.0, 0.0]) := by
  obtain ⟨index, reached, three, -⟩ := exists_run_shelf
  have room : ¬ UInt64.size ≤ index.maxDoc + 2 := by
    rw [three]
    decide
  obtain ⟨candidates, matching, total, alike⟩ :=
    matching_independent_of_weights reached shelfQuery
  rcases alike shelfQuery .refl .smoothed with ⟨plan, bound, finds, -⟩ | ⟨full, -⟩
  case inr => exact absurd full room
  rcases alike heavyQuery boosted_heavyQuery .classic with ⟨twin, known, same, -⟩ | ⟨full, -⟩
  case inr => exact absurd full room
  exact ⟨index, candidates, matching, total, plan, twin, reached, bound, known,
    finds [] .smoothed, same [-3.0, 0.0] .classic⟩

end Index

end Relevance
