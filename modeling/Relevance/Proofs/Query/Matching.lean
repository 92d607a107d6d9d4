import Mathlib.Tactic.Choose
import Relevance.Proofs.Index.Exact
import Relevance.Proofs.Numeric.Positive
import Relevance.Proofs.Query.Binding
import Relevance.Proofs.Query.Phrase

set_option autoImplicit false

namespace Relevance

/-- A phrase has an offset for every term. -/
def Matcher.Placed : Matcher → Prop
  | .term _ => True
  | .phrase terms offsets _ => offsets.length = terms.length

variable {index : Index} {similarity : Similarity} {doc : DocId}

namespace Clause

variable {clause : Clause}

def Occurs (index : Index) (clause : Clause) (doc : DocId) : Prop :=
  ∃ freq, clause.freq index doc = .ok freq ∧ ¬ freq ≤ 0.0

theorem freq_of_term {wanted : Term} (looks : clause.matcher = .term wanted) :
    clause.freq index doc =
      .ok (countToSingle (index.positions doc clause.field wanted).length) := by
  simp only [Clause.freq, looks]

theorem freq_of_phrase {terms : List Term} {offsets : List UInt32} {slop : UInt32}
    (looks : clause.matcher = .phrase terms offsets slop) : clause.freq index doc =
      Phrase.freq (terms.map (index.positions doc clause.field)) offsets slop := by
  simp only [Clause.freq, looks]

theorem exists_freq (placed : clause.matcher.Placed) (doc : DocId) :
    ∃ freq, clause.freq index doc = .ok freq := by
  cases looks : clause.matcher with
  | term wanted => exact ⟨_, freq_of_term looks⟩
  | phrase terms offsets slop =>
    rw [looks] at placed
    rw [freq_of_phrase looks]
    exact Phrase.exists_freq (by rw [List.length_map]; exact placed) slop

/-- A clause has a score for the documents that it stands in. -/
theorem exists_score (placed : clause.matcher.Placed) :
    ∃ found, clause.score index similarity doc = .ok found ∧
      (found.isSome ↔ clause.Occurs index doc) := by
  obtain ⟨freq, counted⟩ : ∃ freq, clause.freq index doc = .ok freq := exists_freq placed doc
  unfold Clause.score Occurs
  simp only [counted, Fault.ok_bind, Fault.pure_eq_ok, Except.ok.injEq, exists_eq_left']
  split <;> simp [*]

/-- A document with a clause has all of its terms. -/
theorem Occurs.positions_ne_nil (occurs : clause.Occurs index doc) {term : Term}
    (member : term ∈ clause.matcher.terms) : index.positions doc clause.field term ≠ [] := by
  obtain ⟨freq, counted, positive⟩ := occurs
  intro none
  cases looks : clause.matcher with
  | term wanted =>
    rw [looks] at member
    cases List.mem_singleton.mp member
    rw [freq_of_term looks, none] at counted
    cases counted
    exact positive (Single.countToSingle_zero ▸ Single.zero_le_zero)
  | phrase terms offsets slop =>
    rw [looks] at member
    rw [freq_of_phrase looks] at counted
    have missing : (terms.map (index.positions doc clause.field)).any List.isEmpty = true := by
      rw [List.any_map, List.any_eq_true]
      exact ⟨term, member, by rw [Function.comp_apply, none]; rfl⟩
    simp only [Phrase.freq, missing, ↓reduceIte] at counted
    cases counted
    exact positive Single.zero_le_zero

/-- A clause that stands in a document has terms. -/
theorem Occurs.terms_ne_nil (occurs : clause.Occurs index doc) : clause.matcher.terms ≠ [] := by
  obtain ⟨freq, counted, positive⟩ := occurs
  intro none
  cases looks : clause.matcher with
  | term wanted =>
    rw [looks] at none
    cases none
  | phrase terms offsets slop =>
    rw [looks] at none
    rw [freq_of_phrase looks] at counted
    cases none
    simp only [Phrase.freq, List.map_nil, List.any_nil, Bool.false_eq_true, ↓reduceIte,
      Phrase.exactFreq, Phrase.sloppyFreq, ite_self] at counted
    cases counted
    exact positive Single.zero_le_zero

private theorem mem_foldl_inter (docs : Term → DocSet) (terms : List Term) (common : DocSet) :
    doc ∈ terms.foldl (fun common term => common ∩ docs term) common ↔
      doc ∈ common ∧ ∀ term ∈ terms, doc ∈ docs term := by
  induction terms generalizing common with
  | nil => simp
  | cons term rest ih =>
    rw [List.foldl_cons, ih, Std.ExtTreeSet.mem_inter_iff, List.forall_mem_cons, and_assoc]

/-- The candidates of a clause are the documents listed under all of its terms. -/
theorem mem_candidates_iff_listed : doc ∈ clause.candidates index ↔
    clause.matcher.terms ≠ [] ∧
      ∀ term ∈ clause.matcher.terms, doc ∈ (index.docsWithTerm? clause.field term).getD [] := by
  have posted : ∀ term, doc ∈ Std.ExtTreeSet.ofList
      ((index.docsWithTerm? clause.field term).getD []) ↔
        doc ∈ (index.docsWithTerm? clause.field term).getD [] := by
    intro term
    rw [Std.ExtTreeSet.mem_ofList, List.contains_iff_mem]
  unfold candidates
  cases clause.matcher.terms with
  | nil => simp
  | cons term rest =>
    simp only [mem_foldl_inter, posted, List.forall_mem_cons, ne_eq, reduceCtorEq,
      not_false_eq_true, true_and]

theorem mem_candidates_iff (sound : index.Sound) : doc ∈ clause.candidates index ↔
    clause.matcher.terms ≠ [] ∧
      ∀ term ∈ clause.matcher.terms, index.positions doc clause.field term ≠ [] := by
  simp only [mem_candidates_iff_listed, sound.mem_docsWithTerm_iff]

end Clause

namespace Plan

/-- A document has what a plan looks for. -/
inductive Matches (index : Index) (doc : DocId) : Plan → Prop
  | leaf {clause : Clause} (occurs : clause.Occurs index doc) : Matches index doc (.leaf clause)
  | conjunction {plans : List Plan} (all : ∀ plan ∈ plans, Matches index doc plan) :
    Matches index doc (.conjunction plans)
  | disjunction {plans : List Plan} {plan : Plan} (member : plan ∈ plans)
    (matched : Matches index doc plan) : Matches index doc (.disjunction plans)

@[simp] theorem matches_matchNone : ¬ Matches index doc .matchNone := nofun

@[simp] theorem matches_leaf {clause : Clause} :
    Matches index doc (.leaf clause) ↔ clause.Occurs index doc :=
  ⟨fun matched => by cases matched; assumption, .leaf⟩

@[simp] theorem matches_conjunction {plans : List Plan} :
    Matches index doc (.conjunction plans) ↔ ∀ plan ∈ plans, Matches index doc plan :=
  ⟨fun matched => by cases matched; assumption, .conjunction⟩

@[simp] theorem matches_disjunction {plans : List Plan} :
    Matches index doc (.disjunction plans) ↔ ∃ plan ∈ plans, Matches index doc plan :=
  ⟨fun matched => by cases matched; exact ⟨_, ‹_›, ‹_›⟩, fun ⟨_, member, matched⟩ =>
    .disjunction member matched⟩

theorem scoreAll_eq_ok {plans : List Plan} {found : Plan → Option Float32}
    (scored : ∀ plan ∈ plans, plan.score index similarity doc = .ok (found plan))
    (sum : Float32) : scoreAll index similarity doc sum plans =
      .ok (if plans.all fun plan => (found plan).isSome then
        some ((plans.filterMap found).foldl (· + ·) sum) else none) := by
  induction plans generalizing sum with
  | nil => rfl
  | cons plan rest ih =>
    have later := ih fun inner inside => scored inner (List.mem_cons_of_mem _ inside)
    rw [scoreAll, scored plan List.mem_cons_self, Fault.ok_bind, List.filterMap_cons]
    cases part : found plan with
    | none => simp [part]
    | some amount => simp [part, later]

theorem scoreAny_eq_ok {plans : List Plan} {found : Plan → Option Float32}
    (scored : ∀ plan ∈ plans, plan.score index similarity doc = .ok (found plan))
    (sum : Float32) (matched : Nat) : scoreAny index similarity doc sum matched plans =
      .ok ((plans.filterMap found).foldl (· + ·) sum,
        matched + (plans.filterMap found).length) := by
  induction plans generalizing sum matched with
  | nil => rfl
  | cons plan rest ih =>
    have later := ih fun inner inside => scored inner (List.mem_cons_of_mem _ inside)
    rw [scoreAny, scored plan List.mem_cons_self, Fault.ok_bind, List.filterMap_cons]
    cases found plan with
    | none => exact later sum matched
    | some amount =>
      simp only [later, List.foldl_cons, List.length_cons, Nat.add_assoc, Nat.add_comm 1]

/-- A conjunction has the sum of the scores of its parts, if each has one. -/
theorem score_conjunction_eq_ok {plans : List Plan} {found : Plan → Option Float32}
    (scored : ∀ plan ∈ plans, plan.score index similarity doc = .ok (found plan)) :
    (conjunction plans).score index similarity doc =
      .ok (if plans.all fun plan => (found plan).isSome then
        some ((plans.filterMap found).foldl (· + ·) 0.0) else none) := by
  rw [score, scoreAll_eq_ok scored]

/-- A disjunction has the sum of the scores that its parts have, times their share, if any part
has one. -/
theorem score_disjunction_eq_ok {plans : List Plan} {found : Plan → Option Float32}
    (scored : ∀ plan ∈ plans, plan.score index similarity doc = .ok (found plan)) :
    (disjunction plans).score index similarity doc =
      .ok (if (plans.filterMap found).length = 0 then none else
        some (coordinated ((plans.filterMap found).foldl (· + ·) 0.0)
          (plans.filterMap found).length plans.length)) := by
  rw [score, scoreAny_eq_ok scored, Fault.ok_bind]
  simp only [Nat.zero_add, Fault.pure_eq_ok]

/-- Every plan of a phrase has an offset for each of its terms. -/
theorem Binds.placed {query : Query} {plan : Plan} (binds : Binds index query plan) :
    ∀ clause ∈ plan.clauses, clause.matcher.Placed := by
  induction query generalizing plan with
  | matchNone =>
    cases binds
    exact nofun
  | term field wanted boost =>
    cases binds with
    | unknownTerm => exact nofun
    | term known looks =>
      rw [clauses, List.forall_mem_singleton, looks]
      trivial
  | phrase field tokens slop boost =>
    cases binds with
    | unknownPhrase => exact nofun
    | emptyPhrase => exact nofun
    | phrase known least looks =>
      rw [clauses, List.forall_mem_singleton, looks, Matcher.ofPhrase, Matcher.Placed,
        List.length_map, List.length_map]
  | conjunction queries ih =>
    cases binds with
    | conjunction parts =>
      rw [forall_clauses_conjunction]
      intro part member
      obtain ⟨query, asked, bound⟩ := exists_of_mem_right parts member
      exact ih query asked bound
  | disjunction queries ih =>
    cases binds with
    | disjunction parts =>
      rw [forall_clauses_disjunction]
      intro part member
      obtain ⟨query, asked, bound⟩ := exists_of_mem_right parts member
      exact ih query asked bound

/-- A plan has a score for the documents that it matches. -/
theorem exists_score {plan : Plan} (placed : ∀ clause ∈ plan.clauses, clause.matcher.Placed)
    (doc : DocId) : ∃ found, plan.score index similarity doc = .ok found ∧
      (found.isSome ↔ plan.Matches index doc) := by
  induction plan with
  | matchNone => exact ⟨none, by rw [score], by simp⟩
  | leaf clause =>
    rw [score, matches_leaf]
    exact Clause.exists_score (placed clause (by rw [clauses]; exact List.mem_singleton_self _))
  | conjunction plans ih =>
    rw [forall_clauses_conjunction] at placed
    have each : ∀ plan ∈ plans, ∃ found, plan.score index similarity doc = .ok found ∧
        (found.isSome ↔ plan.Matches index doc) :=
      fun plan member => ih plan member (placed plan member)
    choose! found scored matched using each
    refine ⟨_, score_conjunction_eq_ok scored, ?_⟩
    rw [matches_conjunction, ← forall₂_congr matched]
    simp [List.all_eq_true]
  | disjunction plans ih =>
    rw [forall_clauses_disjunction] at placed
    have each : ∀ plan ∈ plans, ∃ found, plan.score index similarity doc = .ok found ∧
        (found.isSome ↔ plan.Matches index doc) :=
      fun plan member => ih plan member (placed plan member)
    choose! found scored matched using each
    refine ⟨_, score_disjunction_eq_ok scored, ?_⟩
    rw [matches_disjunction]
    constructor
    · intro any
      split at any
      · cases any
      · rename_i some
        obtain ⟨amount, member⟩ := List.exists_mem_of_length_pos (Nat.pos_of_ne_zero some)
        obtain ⟨plan, inside, part⟩ := List.mem_filterMap.mp member
        exact ⟨plan, inside, (matched plan inside).mp (by rw [part]; rfl)⟩
    · rintro ⟨plan, inside, holds⟩
      obtain ⟨amount, part⟩ := Option.isSome_iff_exists.mp ((matched plan inside).mpr holds)
      have member := List.mem_filterMap.mpr ⟨plan, inside, part⟩
      rw [if_neg (Nat.ne_of_gt (List.length_pos_of_mem member)), Option.isSome_some]

theorem mem_commonCandidates {docs : DocSet} {plans : List Plan} :
    doc ∈ commonCandidates index docs plans ↔
      doc ∈ docs ∧ ∀ plan ∈ plans, doc ∈ plan.candidates index := by
  induction plans generalizing docs with
  | nil => simp [commonCandidates]
  | cons plan rest ih =>
    rw [commonCandidates, ih, Std.ExtTreeSet.mem_inter_iff, List.forall_mem_cons, and_assoc]

theorem mem_allCandidates {plans : List Plan} :
    doc ∈ allCandidates index plans ↔ ∃ plan ∈ plans, doc ∈ plan.candidates index := by
  induction plans with
  | nil => simp [allCandidates]
  | cons plan rest ih =>
    rw [allCandidates, Std.ExtTreeSet.mem_union_iff, ih, List.exists_mem_cons_iff]

/-- Candidates are documents that are there. -/
theorem isSome_document_of_candidate (sound : index.Sound) {plan : Plan}
    (candidate : doc ∈ plan.candidates index) : (index.document? doc).isSome := by
  induction plan with
  | matchNone =>
    rw [candidates] at candidate
    exact absurd candidate Std.ExtTreeSet.not_mem_empty
  | leaf clause =>
    rw [candidates, Clause.mem_candidates_iff sound] at candidate
    obtain ⟨term, member⟩ := List.exists_mem_of_ne_nil _ candidate.1
    obtain ⟨document, tokens, stored, -⟩ :=
      sound.known_of_positions (candidate.2 term member)
    rw [Index.document?, stored, Option.isSome_some]
  | conjunction plans ih =>
    cases plans with
    | nil =>
      rw [candidates] at candidate
      exact absurd candidate Std.ExtTreeSet.not_mem_empty
    | cons plan rest =>
      rw [candidates, mem_commonCandidates] at candidate
      exact ih plan List.mem_cons_self candidate.1
  | disjunction plans ih =>
    rw [candidates, mem_allCandidates] at candidate
    obtain ⟨plan, member, inside⟩ := candidate
    exact ih plan member inside

/-- Unless a conjunction of nothing is asked for, all matches are candidates. -/
theorem Binds.mem_candidates (sound : index.Sound) {query : Query} {plan : Plan}
    (binds : Binds index query plan) (filled : .conjunction [] ∉ query.subqueries)
    (matched : plan.Matches index doc) : doc ∈ plan.candidates index := by
  have ofLeaf : ∀ clause : Clause, clause.Occurs index doc →
      doc ∈ (Plan.leaf clause).candidates index := by
    intro clause occurs
    rw [candidates, Clause.mem_candidates_iff sound]
    exact ⟨occurs.terms_ne_nil, fun term member => occurs.positions_ne_nil member⟩
  induction query generalizing plan with
  | matchNone =>
    cases binds
    exact absurd matched matches_matchNone
  | term field wanted boost =>
    cases binds with
    | unknownTerm => exact absurd matched matches_matchNone
    | term => exact ofLeaf _ (matches_leaf.mp matched)
  | phrase field tokens slop boost =>
    cases binds with
    | unknownPhrase => exact absurd matched matches_matchNone
    | emptyPhrase => exact absurd matched matches_matchNone
    | phrase => exact ofLeaf _ (matches_leaf.mp matched)
  | conjunction queries ih =>
    cases binds with
    | @conjunction _ plans parts =>
      have each : ∀ plan ∈ plans, doc ∈ plan.candidates index := by
        intro part member
        obtain ⟨query, asked, bound⟩ := exists_of_mem_right parts member
        exact ih query asked bound
          (fun inside => filled (Query.mem_subqueries_conjunction asked inside))
          (matches_conjunction.mp matched part member)
      cases plans with
      | nil =>
        cases parts
        exact absurd (Query.mem_subqueries_self _) filled
      | cons first rest =>
        rw [candidates, mem_commonCandidates]
        exact ⟨each first List.mem_cons_self, fun part later =>
          each part (List.mem_cons_of_mem _ later)⟩
  | disjunction queries ih =>
    cases binds with
    | disjunction parts =>
      rw [candidates, mem_allCandidates]
      obtain ⟨part, member, holds⟩ := matches_disjunction.mp matched
      obtain ⟨query, asked, bound⟩ := exists_of_mem_right parts member
      exact ⟨part, member, ih query asked bound
        (fun inside => filled (Query.mem_subqueries_disjunction asked inside)) holds⟩

/-- The hits of a plan are its candidates that have a score. -/
theorem hits_eq_ok {plan : Plan} {found : DocId → Option Float32}
    (scored : ∀ doc, plan.score index similarity doc = .ok (found doc)) :
    plan.hits index similarity = .ok ((plan.candidates index).toList.filterMap fun doc =>
      (found doc).map fun score => ⟨doc, score⟩) := by
  unfold hits
  refine Fault.filterMapM_eq_ok fun doc _ => ?_
  rw [scored, Fault.ok_bind]
  rfl

/-- The hits of a plan are its candidates that match, in ascending order. -/
theorem exists_hits {plan : Plan} (placed : ∀ clause ∈ plan.clauses, clause.matcher.Placed) :
    ∃ hits, plan.hits index similarity = .ok hits ∧
      (hits.map ScoredDoc.doc).Pairwise (· < ·) ∧
      ∀ doc, doc ∈ hits.map ScoredDoc.doc ↔
        doc ∈ plan.candidates index ∧ plan.Matches index doc := by
  have each : ∀ doc, ∃ found, plan.score index similarity doc = .ok found ∧
      (found.isSome ↔ plan.Matches index doc) := exists_score placed
  choose found scored matched using each
  refine ⟨_, hits_eq_ok scored, ?_, fun doc => ?_⟩
  · rw [List.pairwise_map, List.pairwise_filterMap]
    refine Std.ExtTreeSet.ordered_toList.imp fun {doc other} less hit same next later => ?_
    obtain ⟨score, -, rfl⟩ := Option.map_eq_some_iff.mp same
    obtain ⟨amount, -, rfl⟩ := Option.map_eq_some_iff.mp later
    exact Nat.compare_eq_lt.mp less
  · rw [← matched, List.mem_map]
    constructor
    · rintro ⟨hit, member, rfl⟩
      obtain ⟨other, candidate, same⟩ := List.mem_filterMap.mp member
      obtain ⟨amount, has, rfl⟩ := Option.map_eq_some_iff.mp same
      exact ⟨Std.ExtTreeSet.mem_toList.mp candidate, by rw [has]; rfl⟩
    · rintro ⟨candidate, has⟩
      obtain ⟨amount, has⟩ := Option.isSome_iff_exists.mp has
      exact ⟨⟨doc, amount⟩, List.mem_filterMap.mpr
        ⟨doc, Std.ExtTreeSet.mem_toList.mpr candidate, by rw [has]; rfl⟩, rfl⟩

end Plan

end Relevance
