import Relevance.Proofs.Query.Searching

set_option autoImplicit false

namespace Relevance

/-- The tokens of a document in a field that is looked up under its name. -/
def Schema.searched (schema : Schema) (document : Document) (name : String) : List Token :=
  match schema.find? name with
  | some field => if schema.isIndexed field then (document.tokens.lookup field).getD [] else []
  | none => []

/-- The tokens of a phrase stand in a list of tokens, all shifted by the same amount. -/
def StandsIn (phrase tokens : List Token) : Prop :=
  ∃ shift : Int, ∀ token ∈ phrase, ∃ position : UInt32,
    ⟨token.term, position⟩ ∈ tokens ∧ (position.toNat : Int) = token.position.toNat + shift

/-- What a query says about a document. -/
inductive Query.Satisfied (schema : Schema) (document : Document) : Query → Prop
  | term {field : String} {wanted : Term} {boost : Float32}
    (has : wanted ∈ (schema.searched document field).map Token.term) :
    Satisfied schema document (.term field wanted boost)
  | phrase {field : String} {tokens : List Token} {slop : UInt32} {boost : Float32}
    (some : tokens ≠ []) (stands : StandsIn tokens (schema.searched document field)) :
    Satisfied schema document (.phrase field tokens slop boost)
  | conjunction {queries : List Query} (all : ∀ query ∈ queries, Satisfied schema document query) :
    Satisfied schema document (.conjunction queries)
  | disjunction {queries : List Query} {query : Query} (member : query ∈ queries)
    (one : Satisfied schema document query) : Satisfied schema document (.disjunction queries)

namespace Query

variable {schema : Schema} {document : Document}

@[simp] theorem satisfied_matchNone : ¬ Satisfied schema document .matchNone := nofun

@[simp] theorem satisfied_term {field : String} {wanted : Term} {boost : Float32} :
    Satisfied schema document (.term field wanted boost) ↔
      wanted ∈ (schema.searched document field).map Token.term :=
  ⟨fun satisfied => by cases satisfied; assumption, .term⟩

@[simp] theorem satisfied_phrase {field : String} {tokens : List Token} {slop : UInt32}
    {boost : Float32} : Satisfied schema document (.phrase field tokens slop boost) ↔
      tokens ≠ [] ∧ StandsIn tokens (schema.searched document field) :=
  ⟨fun satisfied => by cases satisfied; exact ⟨‹_›, ‹_›⟩, fun both => .phrase both.1 both.2⟩

@[simp] theorem satisfied_conjunction {queries : List Query} :
    Satisfied schema document (.conjunction queries) ↔
      ∀ query ∈ queries, Satisfied schema document query :=
  ⟨fun satisfied => by cases satisfied; assumption, .conjunction⟩

@[simp] theorem satisfied_disjunction {queries : List Query} :
    Satisfied schema document (.disjunction queries) ↔
      ∃ query ∈ queries, Satisfied schema document query :=
  ⟨fun satisfied => by cases satisfied; exact ⟨_, ‹_›, ‹_›⟩, fun ⟨_, member, one⟩ =>
    .disjunction member one⟩

end Query

theorem not_standsIn_nil {phrase : List Token} (some : phrase ≠ []) : ¬ StandsIn phrase [] := by
  rintro ⟨shift, each⟩
  obtain ⟨token, member⟩ := List.exists_mem_of_ne_nil phrase some
  obtain ⟨position, inside, -⟩ := each token member
  cases inside

/-- A phrase stands where its first token starts and all others are shifted as far as that. -/
theorem standsIn_cons_iff {head : Token} {rest own : List Token} :
    StandsIn (head :: rest) own ↔ ∃ start ∈ positionsOf head.term own,
      ∀ token ∈ rest, ∃ position : UInt32, ⟨token.term, position⟩ ∈ own ∧
        (position.toNat : Int) = token.position.toNat + (start.toNat - head.position.toNat) := by
  constructor
  · rintro ⟨shift, each⟩
    obtain ⟨⟨start, member, same⟩, others⟩ := List.forall_mem_cons.mp each
    refine ⟨start, (mem_positionsOf _ _ _).mpr member, fun token inside => ?_⟩
    obtain ⟨position, found, place⟩ := others token inside
    exact ⟨position, found, by omega⟩
  · rintro ⟨start, member, others⟩
    refine ⟨start.toNat - head.position.toNat, List.forall_mem_cons.mpr ⟨?_, others⟩⟩
    exact ⟨start, (mem_positionsOf _ _ _).mp member, by omega⟩

variable {index : Index} {similarity : Similarity} {doc : DocId}

/-- A token stands in its place behind a start exactly if it is shifted as far as the first token
is. Positions below `2 ^ 31` keep the place within 32 bits. -/
theorem inPlace_iff {own : List Token} {first start : UInt32} {head token : Token}
    (beforeHead : first ≤ head.position) (beforeToken : first ≤ token.position)
    (low : start.toNat < 2 ^ 31) (near : token.position.toNat < 2 ^ 31) :
    (0 ≤ (start.toNat - (head.position - first).toNat : Int) + (token.position - first).toNat ∧
      Phrase.isMember (positionsOf token.term own) (.ofNat ((start.toNat -
        (head.position - first).toNat : Int) + (token.position - first).toNat).toNat) = true) ↔
    ∃ position : UInt32, ⟨token.term, position⟩ ∈ own ∧
      (position.toNat : Int) = token.position.toNat + (start.toNat - head.position.toNat) := by
  have headOffset := UInt32.toNat_sub_of_le _ _ beforeHead
  have tokenOffset := UInt32.toNat_sub_of_le _ _ beforeToken
  have headBound := UInt32.le_iff_toNat_le.mp beforeHead
  have tokenBound := UInt32.le_iff_toNat_le.mp beforeToken
  obtain ⟨place, same⟩ : ∃ place : Int, place =
      (start.toNat - (head.position - first).toNat : Int) + (token.position - first).toNat :=
    ⟨_, rfl⟩
  have shifted : place = token.position.toNat + (start.toNat - head.position.toNat) := by omega
  rw [← same, ← shifted, Phrase.isMember_iff (positionsOf_ascending _ _), mem_positionsOf]
  constructor
  · rintro ⟨above, member⟩
    have fits : (UInt32.ofNat place.toNat).toNat = place.toNat :=
      UInt32.toNat_ofNat_of_lt (by change place.toNat < 2 ^ 32; omega)
    exact ⟨_, member, by omega⟩
  · rintro ⟨position, member, stands⟩
    refine ⟨by omega, ?_⟩
    rw [← stands, Int.toNat_natCast, UInt32.ofNat_toNat]
    exact member

-- Without these bounds places are counted round: here position 1 is taken to be 2 ^ 32 - 3 positions
-- behind position 4.
example : Phrase.allInPlace 4 [[1]] [4294967293] = true := by decide

namespace Clause

variable {clause : Clause}

theorem occurs_term_iff (sound : index.Sound) {wanted : Term}
    (looks : clause.matcher = .term wanted) :
    clause.Occurs index doc ↔ index.positions doc clause.field wanted ≠ [] := by
  constructor
  · intro occurs
    exact occurs.positions_ne_nil (by rw [looks]; exact List.mem_singleton_self _)
  · intro has
    have counted := Single.positive_countToSingle (List.length_pos_iff.mpr has)
      (sound.length_positions_lt doc clause.field wanted)
    exact ⟨_, freq_of_term looks, counted.not_le_zero⟩

/-- A phrase without slop occurs where its tokens stand, all shifted by the same amount. -/
theorem occurs_phrase_iff {tokens own : List Token} {first : UInt32}
    (looks : clause.matcher = .ofPhrase tokens first 0)
    (least : firstPosition? tokens = some first)
    (known : ∀ term, index.positions doc clause.field term = positionsOf term own)
    (low : ∀ token ∈ own, token.position.toNat < 2 ^ 31)
    (near : ∀ token ∈ tokens, token.position.toNat < 2 ^ 31) :
    clause.Occurs index doc ↔ StandsIn tokens own := by
  cases tokens with
  | nil => cases least
  | cons head rest =>
  have everywhere : index.positions doc clause.field = (positionsOf · own) := funext known
  unfold Occurs
  rw [freq_of_phrase looks, everywhere, Phrase.freq]
  split
  · rename_i missing
    obtain ⟨_, listed, empty⟩ := List.any_eq_true.mp missing
    simp only [List.map_map, List.mem_map, Function.comp_apply] at listed
    obtain ⟨token, member, rfl⟩ := listed
    constructor
    · rintro ⟨freq, counted, positive⟩
      cases counted
      exact absurd Single.zero_le_zero positive
    · rintro ⟨shift, each⟩
      obtain ⟨position, inside, -⟩ := each token member
      rw [← mem_positionsOf, List.isEmpty_iff.mp empty] at inside
      cases inside
  · have beforeHead := le_of_firstPosition least List.mem_cons_self
    have before : ∀ token ∈ rest, first ≤ token.position := fun token member =>
      le_of_firstPosition least (List.mem_cons_of_mem _ member)
    simp only [↓reduceIte, List.map_cons, Phrase.exactFreq_eq_ok, Except.ok.injEq,
      exists_eq_left', Phrase.countOnes_iff, standsIn_cons_iff, List.map_map]
    refine exists_congr fun start => and_congr_right fun member => ?_
    have near' : ∀ token ∈ rest, token.position.toNat < 2 ^ 31 := fun token member =>
      near token (List.mem_cons_of_mem _ member)
    have below := low _ ((mem_positionsOf _ _ _).mp member)
    rw [Phrase.allInPlace_map_iff]
    exact forall₂_congr fun token inside =>
      inPlace_iff beforeHead (before token inside) below (near' token inside)

end Clause

theorem Schema.searched_of_unknown {schema : Schema} {document : Document} {name : String}
    (unknown : schema.find? name = none) : schema.searched document name = [] := by
  rw [searched, unknown]

theorem Index.searchable_eq {document : Document} {name : String} {field : FieldId}
    (stored : index.document? doc = some document) (named : index.schema.find? name = some field) :
    index.searchable doc field = index.schema.searched document name := by
  rw [searchable, Schema.searched, stored, named]

theorem Schema.mem_of_mem_searched {schema : Schema} {document : Document} {name : String}
    {token : Token} (member : token ∈ schema.searched document name) :
    ∃ field tokens, (field, tokens) ∈ document.tokens ∧ token ∈ tokens := by
  unfold searched at member
  split at member
  · rename_i field named
    split at member
    · cases found : document.tokens.lookup field with
      | none =>
        rw [found] at member
        cases member
      | some tokens =>
        rw [found] at member
        exact ⟨field, tokens, Document.mem_tokens_iff.mpr found, member⟩
    · cases member
  · cases member

/-- The phrases in a query have no slop, and their positions fit in 31 bits. -/
def Query.Exact (query : Query) : Prop :=
  ∀ field tokens slop boost, .phrase field tokens slop boost ∈ query.subqueries →
    slop = 0 ∧ ∀ token ∈ tokens, token.position.toNat < 2 ^ 31

theorem Query.Exact.of_conjunction {queries : List Query} (exact : (conjunction queries).Exact) :
    ∀ query ∈ queries, query.Exact := fun _ asked field tokens slop boost inside =>
  exact field tokens slop boost (mem_subqueries_conjunction asked inside)

theorem Query.Exact.of_disjunction {queries : List Query} (exact : (disjunction queries).Exact) :
    ∀ query ∈ queries, query.Exact := fun _ asked field tokens slop boost inside =>
  exact field tokens slop boost (mem_subqueries_disjunction asked inside)

/-- A plan matches a document that is there exactly if the query is true of it. -/
theorem Plan.Binds.matches_iff_satisfied (sound : index.Sound) (complete : index.Complete)
    {document : Document} (stored : index.document? doc = some document)
    (low : ∀ field tokens, (field, tokens) ∈ document.tokens →
      ∀ token ∈ tokens, token.position.toNat < 2 ^ 31)
    {query : Query} {plan : Plan} (binds : Plan.Binds index query plan) (exact : query.Exact) :
    plan.Matches index doc ↔ query.Satisfied index.schema document := by
  induction query generalizing plan with
  | matchNone =>
    cases binds
    exact iff_of_false matches_matchNone Query.satisfied_matchNone
  | term field wanted boost =>
    rw [Query.satisfied_term]
    cases binds with
    | unknownTerm unknown =>
      rw [Schema.searched_of_unknown unknown]
      exact iff_of_false matches_matchNone List.not_mem_nil
    | term named looks =>
      rw [matches_leaf, Clause.occurs_term_iff sound looks, sound.positions_eq complete,
        Index.searchable_eq stored named, ne_eq, positionsOf_eq_nil_iff, not_not]
  | phrase field tokens slop boost =>
    rw [Query.satisfied_phrase]
    cases binds with
    | unknownPhrase unknown =>
      rw [Schema.searched_of_unknown unknown]
      exact iff_of_false matches_matchNone fun both => not_standsIn_nil both.1 both.2
    | emptyPhrase =>
      exact iff_of_false matches_matchNone fun both => both.1 rfl
    | phrase named least looks =>
      obtain ⟨rfl, near⟩ := exact field tokens slop boost (Query.mem_subqueries_self _)
      have some : tokens ≠ [] := by
        rintro rfl
        cases least
      rw [matches_leaf, Clause.occurs_phrase_iff looks least (fun term => by
        rw [sound.positions_eq complete, Index.searchable_eq stored named]) ?_ near]
      · exact (and_iff_right some).symm
      · intro token member
        obtain ⟨id, own, listed, inside⟩ := Schema.mem_of_mem_searched member
        exact low id own listed token inside
  | conjunction queries ih =>
    cases binds with
    | conjunction parts =>
      have each : ∀ query ∈ queries, query.Exact := exact.of_conjunction
      rw [matches_conjunction, Query.satisfied_conjunction]
      constructor
      · intro all query asked
        obtain ⟨plan, member, bound⟩ := exists_of_mem_left parts asked
        exact (ih query asked bound (each query asked)).mp (all plan member)
      · intro all plan member
        obtain ⟨query, asked, bound⟩ := exists_of_mem_right parts member
        exact (ih query asked bound (each query asked)).mpr (all query asked)
  | disjunction queries ih =>
    cases binds with
    | disjunction parts =>
      have each : ∀ query ∈ queries, query.Exact := exact.of_disjunction
      rw [matches_disjunction, Query.satisfied_disjunction]
      constructor
      · rintro ⟨plan, member, matched⟩
        obtain ⟨query, asked, bound⟩ := exists_of_mem_right parts member
        exact ⟨query, asked, (ih query asked bound (each query asked)).mp matched⟩
      · rintro ⟨query, asked, satisfied⟩
        obtain ⟨plan, member, bound⟩ := exists_of_mem_left parts asked
        exact ⟨plan, member, (ih query asked bound (each query asked)).mpr satisfied⟩

namespace Index

/-- A document has a score exactly if it is there and the query is true of it. Scoring fails only if
the numbers given out leave no room for the counts. -/
theorem score_isSome_iff_satisfied {weighed : Similarity} {operations : List Operation}
    (first : FieldsFirst weighed operations) (reached : run weighed operations = .ok index)
    (low : ∀ doc document field tokens token, index.document? doc = some document →
      (field, tokens) ∈ document.tokens → token ∈ tokens → token.position.toNat < 2 ^ 31)
    (similarity : Similarity) (query : Query) (filled : .conjunction [] ∉ query.subqueries)
    (exact : query.Exact) (doc : DocId) :
    (∃ found, index.score similarity query doc = .ok found ∧
      (found.isSome ↔ ∃ document, index.document? doc = some document ∧
        query.Satisfied index.schema document)) ∨
    UInt64.size ≤ index.maxDoc + 2 ∧
      index.score similarity query doc = .error .additionOverflow := by
  have sound : index.Sound := sound_of_run reached
  have complete : index.Complete := complete_of_run first reached
  rcases sound.plan_cases similarity query with ⟨plan, planned, binds⟩ | ⟨failed, overflow⟩
  case inr =>
    refine Or.inr ⟨overflow, ?_⟩
    rw [Index.score, failed, Fault.error_bind]
  obtain ⟨found, scored, matched⟩ : ∃ found, plan.score index similarity doc = .ok found ∧
      (found.isSome ↔ plan.Matches index doc) := Plan.exists_score binds.placed doc
  refine Or.inl ⟨found, ?_, ?_⟩
  · rw [Index.score, planned, Fault.ok_bind, scored]
  rw [matched]
  constructor
  · intro holds
    have there := Plan.isSome_document_of_candidate sound
      (binds.mem_candidates sound filled holds)
    obtain ⟨document, stored⟩ := Option.isSome_iff_exists.mp there
    exact ⟨document, stored, (binds.matches_iff_satisfied sound complete stored
      (fun field tokens listed token => low doc document field tokens token stored listed)
      exact).mp holds⟩
  · rintro ⟨document, stored, satisfied⟩
    exact (binds.matches_iff_satisfied sound complete stored
      (fun field tokens listed token => low doc document field tokens token stored listed)
      exact).mpr satisfied

theorem low_shelf {index : Index} (reached : run .smoothed shelf = .ok index) :
    ∀ doc document field tokens token, index.document? doc = some document →
      (field, tokens) ∈ document.tokens → token ∈ tokens → token.position.toNat < 2 ^ 31 := by
  intro doc document field tokens token stored listed member
  have inserted := inserted_of_run reached stored
  simp only [shelf, List.mem_cons, reduceCtorEq, Operation.insert.injEq, List.not_mem_nil,
    or_false, false_or] at inserted
  rcases inserted with rfl | rfl | rfl <;>
  · simp [Document.withTokens, Document.ofKey, replaceField] at listed
    obtain ⟨-, rfl⟩ := listed
    revert token
    decide +kernel

theorem shelf_score_isSome_iff_satisfied : ∃ index found, run .smoothed shelf = .ok index ∧
    index.score .classic shelfQuery 2 = .ok found ∧
    (found.isSome ↔ ∃ document, index.document? 2 = some document ∧
      shelfQuery.Satisfied index.schema document) := by
  obtain ⟨index, reached, three, -⟩ := exists_run_shelf
  have exact : shelfQuery.Exact := by
    intro field tokens slop boost inside
    simp [shelfQuery, Query.ofTerm, Query.subqueries, Query.subqueriesAll] at inside
    obtain ⟨-, rfl, rfl, -⟩ := inside
    exact ⟨rfl, by decide +kernel⟩
  rcases score_isSome_iff_satisfied (fieldsFirst_shelf .smoothed) reached (low_shelf reached)
    .classic shelfQuery filled_shelfQuery exact 2 with ⟨found, scored, same⟩ | ⟨overflow, -⟩
  · exact ⟨index, found, reached, scored, same⟩
  · rw [three] at overflow
    exact absurd overflow (by decide)

end Index

end Relevance
