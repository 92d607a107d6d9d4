import Relevance.Proofs.Index.Counts
import Relevance.Proofs.Query.Tree

set_option autoImplicit false

namespace Relevance

theorem le_of_firstPosition {tokens : List Token} {first : UInt32}
    (least : firstPosition? tokens = some first) {token : Token} (member : token ∈ tokens) :
    first ≤ token.position :=
  (List.min?_eq_some_iff.mp least).2 token.position (List.mem_map_of_mem member)

theorem firstPosition_eq_none_iff {tokens : List Token} :
    firstPosition? tokens = none ↔ tokens = [] := by
  rw [firstPosition?, List.min?_eq_none_iff, List.map_eq_nil_iff]

def Matcher.ofPhrase (tokens : List Token) (first : UInt32) (slop : UInt32) : Matcher :=
  .phrase (tokens.map Token.term) (tokens.map (·.position - first)) slop

/-- No token of a phrase stands before its first position. -/
theorem Matcher.ofTokens?_eq_ok (tokens : List Token) (slop : UInt32) :
    Matcher.ofTokens? tokens slop =
      .ok ((firstPosition? tokens).map fun first => .ofPhrase tokens first slop) := by
  unfold Matcher.ofTokens?
  cases least : firstPosition? tokens with
  | none => rfl
  | some first =>
    have offsets : tokens.mapM (offsetFrom first) = .ok (tokens.map (·.position - first)) :=
      Fault.mapM_eq_ok fun token member => if_pos (le_of_firstPosition least member)
    simp only [offsets]
    rfl

/-- A plan looks for what a query asks for. -/
inductive Plan.Binds (index : Index) : Query → Plan → Prop
  | matchNone : Binds index .matchNone .matchNone
  | unknownTerm {field : String} {wanted : Term} {boost : Float32}
    (unknown : index.schema.find? field = none) : Binds index (.term field wanted boost) .matchNone
  | term {field : String} {wanted : Term} {boost : Float32} {clause : Clause}
    (known : index.schema.find? field = some clause.field)
    (looks : clause.matcher = .term wanted) :
    Binds index (.term field wanted boost) (.leaf clause)
  | unknownPhrase {field : String} {tokens : List Token} {slop : UInt32} {boost : Float32}
    (unknown : index.schema.find? field = none) :
    Binds index (.phrase field tokens slop boost) .matchNone
  | emptyPhrase {field : String} {slop : UInt32} {boost : Float32} :
    Binds index (.phrase field [] slop boost) .matchNone
  | phrase {field : String} {tokens : List Token} {slop : UInt32} {boost : Float32}
    {clause : Clause} {first : UInt32} (known : index.schema.find? field = some clause.field)
    (least : firstPosition? tokens = some first)
    (looks : clause.matcher = .ofPhrase tokens first slop) :
    Binds index (.phrase field tokens slop boost) (.leaf clause)
  | conjunction {queries : List Query} {plans : List Plan}
    (parts : List.Forall₂ (Binds index) queries plans) :
    Binds index (.conjunction queries) (.conjunction plans)
  | disjunction {queries : List Query} {plans : List Plan}
    (parts : List.Forall₂ (Binds index) queries plans) :
    Binds index (.disjunction queries) (.disjunction plans)

namespace Plan

variable {index : Index} {similarity : Similarity}

theorem ofMatcher_eq_ok {field : FieldId} {matcher : Matcher} {boost : Float32}
    {description : String} {clause : Clause}
    (success : Clause.ofMatcher index similarity field matcher boost description = .ok clause) :
    clause.field = field ∧ clause.matcher = matcher := by
  unfold Clause.ofMatcher at success
  rw [Fault.bind_eq_ok_iff] at success
  obtain ⟨weight, -, done⟩ := success
  cases done
  exact ⟨rfl, rfl⟩

theorem forall₂_of_mem {α β : Type} {before after : α → β → Prop} {items : List α}
    {others : List β} (related : List.Forall₂ before items others)
    (change : ∀ item ∈ items, ∀ other, before item other → after item other) :
    List.Forall₂ after items others := by
  have both := (List.forall₂_and_left items others).mpr ⟨change, related⟩
  exact both.imp fun item other holds => holds.1 other holds.2

theorem exists_of_mem_right {α β : Type} {relate : α → β → Prop} {items : List α}
    {others : List β} (related : List.Forall₂ relate items others) {other : β}
    (member : other ∈ others) : ∃ item ∈ items, relate item other := by
  induction related with
  | nil => cases member
  | cons first _ ih =>
    rcases List.mem_cons.mp member with rfl | later
    · exact ⟨_, List.mem_cons_self, first⟩
    · obtain ⟨item, inside, holds⟩ := ih later
      exact ⟨item, List.mem_cons_of_mem _ inside, holds⟩

theorem exists_of_mem_left {α β : Type} {relate : α → β → Prop} {items : List α}
    {others : List β} (related : List.Forall₂ relate items others) {item : α}
    (member : item ∈ items) : ∃ other ∈ others, relate item other := by
  exact exists_of_mem_right related.flip member

theorem binds_of_ofQuery {query : Query} {plan : Plan}
    (success : ofQuery index similarity query = .ok plan) : Binds index query plan := by
  induction query generalizing plan with
  | matchNone =>
    cases success
    exact .matchNone
  | term field wanted boost =>
    rw [ofQuery] at success
    cases found : index.schema.find? field with
    | none =>
      rw [found] at success
      cases success
      exact .unknownTerm found
    | some id =>
      rw [found, Fault.bind_eq_ok_iff] at success
      obtain ⟨clause, bound, done⟩ := success
      cases done
      obtain ⟨rfl, looks⟩ := ofMatcher_eq_ok bound
      exact .term found looks
  | phrase field tokens slop boost =>
    rw [ofQuery] at success
    cases found : index.schema.find? field with
    | none =>
      rw [found] at success
      cases success
      exact .unknownPhrase found
    | some id =>
      rw [found] at success
      simp only [Matcher.ofTokens?_eq_ok, Fault.ok_bind] at success
      cases least : firstPosition? tokens with
      | none =>
        rw [least] at success
        cases success
        rw [firstPosition_eq_none_iff.mp least]
        exact .emptyPhrase
      | some first =>
        simp only [least, Option.map_some, Fault.bind_eq_ok_iff] at success
        obtain ⟨clause, bound, done⟩ := success
        cases done
        obtain ⟨rfl, looks⟩ := ofMatcher_eq_ok bound
        exact .phrase found least looks
  | conjunction queries ih =>
    rw [ofQuery, Fault.bind_eq_ok_iff] at success
    obtain ⟨plans, bound, done⟩ := success
    cases done
    exact .conjunction (forall₂_of_mem (ofQueries_eq_ok bound) fun query member _ => ih query member)
  | disjunction queries ih =>
    rw [ofQuery, Fault.bind_eq_ok_iff] at success
    obtain ⟨plans, bound, done⟩ := success
    cases done
    exact .disjunction (forall₂_of_mem (ofQueries_eq_ok bound) fun query member _ => ih query member)

/-- What is true of every clause that is made for a term or phrase is true of all clauses of a
query. -/
theorem forall_clauses_of_ofQuery {holds : Clause → Prop}
    (made : ∀ field matcher boost description clause,
      Clause.ofMatcher index similarity field matcher boost description = .ok clause →
        holds clause)
    {query : Query} {plan : Plan} (success : ofQuery index similarity query = .ok plan) :
    ∀ clause ∈ plan.clauses, holds clause := by
  induction query generalizing plan with
  | matchNone =>
    cases success
    exact nofun
  | term field wanted boost =>
    rw [ofQuery] at success
    split at success
    · cases success
      exact nofun
    · obtain ⟨clause, bound, done⟩ := Fault.bind_eq_ok_iff.mp success
      cases done
      rw [clauses, List.forall_mem_singleton]
      exact made _ _ _ _ clause bound
  | phrase field tokens slop boost =>
    rw [ofQuery] at success
    split at success
    · cases success
      exact nofun
    · simp only [Matcher.ofTokens?_eq_ok, Fault.ok_bind] at success
      split at success
      · cases success
        exact nofun
      · obtain ⟨clause, bound, done⟩ := Fault.bind_eq_ok_iff.mp success
        cases done
        rw [clauses, List.forall_mem_singleton]
        exact made _ _ _ _ clause bound
  | conjunction queries ih =>
    rw [ofQuery, Fault.bind_eq_ok_iff] at success
    obtain ⟨plans, bound, done⟩ := success
    cases done
    rw [forall_clauses_conjunction]
    intro part member
    obtain ⟨query, asked, bound⟩ := exists_of_mem_right (ofQueries_eq_ok bound) member
    exact ih query asked bound
  | disjunction queries ih =>
    rw [ofQuery, Fault.bind_eq_ok_iff] at success
    obtain ⟨plans, bound, done⟩ := success
    cases done
    rw [forall_clauses_disjunction]
    intro part member
    obtain ⟨query, asked, bound⟩ := exists_of_mem_right (ofQueries_eq_ok bound) member
    exact ih query asked bound

/-- Normalising changes weights only. -/
theorem Binds.normalize {query : Query} {plan : Plan} (binds : Binds index query plan)
    (queryNorm : Float32) : Binds index query (plan.normalize queryNorm) := by
  induction query generalizing plan with
  | matchNone =>
    cases binds
    exact .matchNone
  | term field wanted boost =>
    cases binds with
    | unknownTerm unknown => exact .unknownTerm unknown
    | term known looks => exact .term known looks
  | phrase field tokens slop boost =>
    cases binds with
    | unknownPhrase unknown => exact .unknownPhrase unknown
    | emptyPhrase => exact .emptyPhrase
    | phrase known least looks => exact .phrase known least looks
  | conjunction queries ih =>
    cases binds with
    | conjunction parts =>
      rw [Plan.normalize, normalizeAll_eq_map]
      refine .conjunction (List.forall₂_map_right_iff.mpr (forall₂_of_mem parts ?_))
      exact fun query member plan bound => ih query member bound
  | disjunction queries ih =>
    cases binds with
    | disjunction parts =>
      rw [Plan.normalize, normalizeAll_eq_map]
      refine .disjunction (List.forall₂_map_right_iff.mpr (forall₂_of_mem parts ?_))
      exact fun query member plan bound => ih query member bound

/-- The rarity of a term leaves its range only with a count of documents that large. -/
theorem idf_eq_error {docFreq docCount : Nat} {reason : Fault}
    (failure : similarity.idf docFreq docCount = .error reason) :
    reason = .additionOverflow ∧
      (UInt64.size ≤ docCount + 2 ∨ UInt64.size ≤ docFreq + 2) := by
  have small : similarity.countOffset ≤ 2 := by cases similarity <;> decide
  unfold Similarity.idf at failure
  rw [Fault.bind_eq_error_iff, Fault.checkedAdd_eq_error_iff] at failure
  rcases failure with ⟨overflow, rfl⟩ | ⟨_, -, failure⟩
  · exact ⟨rfl, Or.inl (by omega)⟩
  rw [Fault.bind_eq_error_iff, Fault.checkedAdd_eq_error_iff] at failure
  rcases failure with ⟨overflow, rfl⟩ | ⟨_, -, failure⟩
  · exact ⟨rfl, Or.inr (by omega)⟩
  · cases failure

theorem explainIdf_eq_error (sound : index.Sound) {field : FieldId} {term : Term} {reason : Fault}
    (failure : similarity.explainIdf (index.fieldStatistics field)
      (index.termStatistics field term) = .error reason) :
    reason = .additionOverflow ∧ UInt64.size ≤ index.maxDoc + 2 := by
  unfold Similarity.explainIdf at failure
  rw [Fault.bind_eq_error_iff] at failure
  rcases failure with failed | ⟨_, -, failed⟩
  · have docCount := sound.effectiveDocCount_le field
    have docFreq := sound.docFreq_le field term
    obtain ⟨same, overflow⟩ := idf_eq_error failed
    exact ⟨same, by omega⟩
  · cases failed

theorem ofMatcher_eq_error (sound : index.Sound) {field : FieldId} {matcher : Matcher}
    {boost : Float32} {description : String} {reason : Fault}
    (failure : Clause.ofMatcher index similarity field matcher boost description =
      .error reason) : reason = .additionOverflow ∧ UInt64.size ≤ index.maxDoc + 2 := by
  unfold Clause.ofMatcher at failure
  rw [Fault.bind_eq_error_iff] at failure
  rcases failure with failed | ⟨_, -, failed⟩
  · unfold Similarity.clauseWeight at failed
    simp only at failed
    split at failed
    · rename_i term single
      obtain ⟨wanted, -, rfl⟩ := List.mem_map.mp (single ▸ List.mem_singleton_self term)
      rw [Fault.bind_eq_error_iff] at failed
      rcases failed with failed | ⟨_, -, failed⟩
      · exact explainIdf_eq_error sound failed
      · cases failed
    · unfold Similarity.explainIdfSum at failed
      rw [Fault.bind_eq_error_iff, Fault.bind_eq_error_iff] at failed
      rcases failed with (failed | ⟨_, -, failed⟩) | ⟨_, -, failed⟩
      · obtain ⟨term, member, failed⟩ := Fault.mapM_eq_error failed
        obtain ⟨wanted, -, rfl⟩ := List.mem_map.mp member
        exact explainIdf_eq_error sound failed
      · cases failed
      · cases failed
  · cases failed

/-- Binding a query fails only if a count of documents leaves its range. -/
theorem ofQuery_eq_error (sound : index.Sound) {query : Query} {reason : Fault}
    (failure : ofQuery index similarity query = .error reason) :
    reason = .additionOverflow ∧ UInt64.size ≤ index.maxDoc + 2 := by
  induction query with
  | matchNone => cases failure
  | term field wanted boost =>
    rw [ofQuery] at failure
    split at failure
    · cases failure
    · rw [Fault.bind_eq_error_iff] at failure
      rcases failure with failed | ⟨_, -, failed⟩
      · exact ofMatcher_eq_error sound failed
      · cases failed
  | phrase field tokens slop boost =>
    rw [ofQuery] at failure
    split at failure
    · cases failure
    · simp only [Matcher.ofTokens?_eq_ok, Fault.ok_bind] at failure
      split at failure
      · cases failure
      · rw [Fault.bind_eq_error_iff] at failure
        rcases failure with failed | ⟨_, -, failed⟩
        · exact ofMatcher_eq_error sound failed
        · cases failed
  | conjunction queries ih =>
    rw [ofQuery, Fault.bind_eq_error_iff] at failure
    rcases failure with failed | ⟨_, -, failed⟩
    · obtain ⟨query, member, failed⟩ := ofQueries_eq_error failed
      exact ih query member failed
    · cases failed
  | disjunction queries ih =>
    rw [ofQuery, Fault.bind_eq_error_iff] at failure
    rcases failure with failed | ⟨_, -, failed⟩
    · obtain ⟨query, member, failed⟩ := ofQueries_eq_error failed
      exact ih query member failed
    · cases failed

end Plan

/-- A plan that is made for a query looks for what it asks for. -/
theorem Index.binds_of_plan {index : Index} {similarity : Similarity} {query : Query} {plan : Plan}
    (planned : index.plan similarity query = .ok plan) : plan.Binds index query := by
  obtain ⟨bound, success, done⟩ := Fault.bind_eq_ok_iff.mp planned
  cases done
  exact (Plan.binds_of_ofQuery success).normalize _

/-- Every query can be bound, unless a count of documents leaves its range. -/
theorem Index.Sound.plan_cases {index : Index} (sound : index.Sound) (similarity : Similarity)
    (query : Query) : (∃ plan, index.plan similarity query = .ok plan ∧ plan.Binds index query) ∨
      index.plan similarity query = .error .additionOverflow ∧
        UInt64.size ≤ index.maxDoc + 2 := by
  unfold Index.plan
  cases bound : Plan.ofQuery index similarity query with
  | ok plan =>
    exact Or.inl ⟨_, rfl, (Plan.binds_of_ofQuery bound).normalize _⟩
  | error reason =>
    obtain ⟨rfl, overflow⟩ := Plan.ofQuery_eq_error sound bound
    exact Or.inr ⟨rfl, overflow⟩

end Relevance
