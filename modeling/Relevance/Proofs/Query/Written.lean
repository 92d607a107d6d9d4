import Relevance.Proofs.Query.Asked
import Relevance.Proofs.Query.Meaning

set_option autoImplicit false

namespace Relevance

namespace QueryPart

/-- A part of a written query is found among tokens: a term of a word, or a phrase that is not empty
with its tokens at the same distances. -/
def FoundIn (analyzer : Analyzer) (own : List Token) : QueryPart → Prop
  | .word text => ∃ token ∈ analyzer.tokens text, token.term ∈ own.map Token.term
  | .phrase text => analyzer.tokens text ≠ [] ∧ StandsIn (analyzer.tokens text) own

end QueryPart

namespace Query

variable {schema : Schema} {document : Document}

@[simp] theorem satisfied_scaleBoost {query : Query} {factor : Float32} :
    (query.scaleBoost factor).Satisfied schema document ↔ query.Satisfied schema document := by
  induction query with
  | matchNone => rw [scaleBoost]
  | term field wanted boost => rw [scaleBoost, satisfied_term, satisfied_term]
  | phrase field tokens slop boost => rw [scaleBoost, satisfied_phrase, satisfied_phrase]
  | conjunction queries ih =>
    rw [scaleBoost, scaleBoostAll_eq_map, satisfied_conjunction, satisfied_conjunction,
      List.forall_mem_map]
    exact forall₂_congr ih
  | disjunction queries ih =>
    rw [scaleBoost, scaleBoostAll_eq_map, satisfied_disjunction, satisfied_disjunction]
    simp only [List.mem_map, exists_exists_and_eq_and]
    exact exists_congr fun query => and_congr_right (ih query)

@[simp] theorem satisfied_boost {query : Query} {factor : Float32} :
    (query.boost factor).Satisfied schema document ↔ query.Satisfied schema document := by
  unfold boost
  split
  · rfl
  · exact satisfied_scaleBoost

@[simp] theorem satisfied_any {queries : List Query} :
    (any queries).Satisfied schema document ↔
      ∃ query ∈ queries, query.Satisfied schema document := by
  match queries with
  | [] => simp [any]
  | [query] => simp [any]
  | first :: second :: rest => exact satisfied_disjunction

theorem standsIn_singleton {token : Token} {own : List Token} :
    StandsIn [token] own ↔ token.term ∈ own.map Token.term := by
  unfold StandsIn
  simp only [List.forall_mem_singleton, List.mem_map]
  constructor
  · rintro ⟨shift, position, member, -⟩
    exact ⟨_, member, rfl⟩
  · rintro ⟨⟨term, position⟩, member, rfl⟩
    exact ⟨position.toNat - token.position.toNat, position, member, by omega⟩

/-- A query for tokens is true of a field where they stand, also where it asks for a single term. -/
@[simp] theorem satisfied_ofTokens {field : String} {tokens : List Token} :
    (ofTokens field tokens 0).Satisfied schema document ↔
      tokens ≠ [] ∧ StandsIn tokens (schema.searched document field) := by
  match tokens with
  | [] => simp [ofTokens]
  | [token] => simp [ofTokens, ofTerm, standsIn_singleton]
  | first :: second :: rest => exact satisfied_phrase

theorem satisfied_inFields {fields : List SearchField} {query : String → Query} :
    (inFields fields query).Satisfied schema document ↔
      ∃ field ∈ fields, (query field.name).Satisfied schema document := by
  simp only [inFields, satisfied_any, List.mem_map, exists_exists_and_eq_and, satisfied_boost]

/-- The queries for a part of a written query ask whether it is found in any field. -/
theorem satisfied_ofPart {fields : List SearchField} {analyzer : Analyzer} {part : QueryPart} :
    (∃ query ∈ ofPart fields (part.tokens analyzer) part, query.Satisfied schema document) ↔
      ∃ field ∈ fields, part.FoundIn analyzer (schema.searched document field.name) := by
  cases part with
  | word text =>
    simp only [ofPart, QueryPart.tokens, QueryPart.text_word, List.mem_map,
      exists_exists_and_eq_and, satisfied_inFields, ofTerm, satisfied_term, QueryPart.FoundIn]
    constructor
    · rintro ⟨token, analyzed, field, searched, has⟩
      exact ⟨field, searched, token, analyzed, has⟩
    · rintro ⟨field, searched, token, analyzed, has⟩
      exact ⟨token, analyzed, field, searched, has⟩
  | phrase text =>
    simp only [QueryPart.tokens, QueryPart.text_phrase, QueryPart.FoundIn]
    cases analyzer.tokens text with
    | nil => simp [ofPart]
    | cons head rest =>
      simp only [ofPart, List.mem_singleton, exists_eq_left, satisfied_inFields, satisfied_ofTokens]

/-- A written query is true of a document if any of its parts is found in any of the fields. -/
theorem satisfied_asked {text : String} {fields : List String} {analyzer : Analyzer} :
    (asked text fields analyzer).Satisfied schema document ↔
      ∃ part ∈ QueryPart.scan text.toList, ∃ field ∈ fields,
        part.FoundIn analyzer (schema.searched document (SearchField.read field).name) := by
  simp only [asked, satisfied_any, List.mem_flatMap]
  constructor
  · rintro ⟨query, ⟨part, scanned, asks⟩, satisfied⟩
    obtain ⟨field, member, found⟩ := satisfied_ofPart.mp ⟨query, asks, satisfied⟩
    obtain ⟨name, searched, rfl⟩ := List.mem_map.mp member
    exact ⟨part, scanned, name, searched, found⟩
  · rintro ⟨part, scanned, name, searched, found⟩
    obtain ⟨query, asks, satisfied⟩ :=
      satisfied_ofPart.mpr ⟨_, List.mem_map_of_mem searched, found⟩
    exact ⟨query, ⟨part, scanned, asks⟩, satisfied⟩

/-- A query that can be read as it stands: no conjunction in it is of nothing, and its phrases have
no slop and positions that fit in 31 bits. -/
structure Regular (query : Query) : Prop where
  filled : .conjunction [] ∉ query.subqueries
  exact : query.Exact

theorem regular_matchNone : Regular .matchNone := by
  constructor
  · simp [subqueries]
  · intro field tokens slop boost inside
    simp [subqueries] at inside

theorem regular_term (field : String) (wanted : Term) (boost : Float32) :
    Regular (.term field wanted boost) := by
  constructor
  · simp [subqueries]
  · intro field tokens slop boost inside
    simp [subqueries] at inside

theorem regular_phrase (field : String) {tokens : List Token} (boost : Float32)
    (near : ∀ token ∈ tokens, token.position.toNat < 2 ^ 31) :
    Regular (.phrase field tokens 0 boost) := by
  constructor
  · simp [subqueries]
  · intro name own slop factor inside
    rw [subqueries, List.mem_singleton] at inside
    cases inside
    exact ⟨rfl, near⟩

theorem regular_disjunction {queries : List Query} (all : ∀ query ∈ queries, query.Regular) :
    Regular (.disjunction queries) := by
  constructor
  · rw [subqueries, List.mem_cons, mem_subqueriesAll]
    rintro (same | ⟨query, asked, inside⟩)
    · cases same
    · exact (all query asked).filled inside
  · intro field tokens slop boost inside
    rw [subqueries, List.mem_cons, mem_subqueriesAll] at inside
    rcases inside with same | ⟨query, asked, inside⟩
    · cases same
    · exact (all query asked).exact field tokens slop boost inside

theorem regular_any {queries : List Query} (all : ∀ query ∈ queries, query.Regular) :
    (any queries).Regular := by
  match queries with
  | [] => exact regular_matchNone
  | [query] => exact all query (List.mem_singleton_self query)
  | first :: second :: rest => exact regular_disjunction all

/-- A query for a term stays one under a boost. -/
theorem regular_boost_ofTerm (field : String) (wanted : Term) (factor : Float32) :
    ((ofTerm field wanted).boost factor).Regular := by
  unfold boost
  rw [ofTerm, scaleBoost]
  split <;> exact regular_term _ _ _

/-- A query for tokens stays a term or a phrase under a boost. -/
theorem regular_boost_ofTokens (field : String) {tokens : List Token} (factor : Float32)
    (near : ∀ token ∈ tokens, token.position.toNat < 2 ^ 31) :
    ((ofTokens field tokens 0).boost factor).Regular := by
  match tokens with
  | [] =>
    rw [ofTokens, boost, scaleBoost, ite_self]
    exact regular_matchNone
  | [token] => exact regular_boost_ofTerm field token.term factor
  | first :: second :: rest =>
    change (if factor == 1.0 then Query.phrase field (first :: second :: rest) 0 1.0
      else .phrase field (first :: second :: rest) 0 (1.0 * factor)).Regular
    split <;> exact regular_phrase _ _ near

/-- A written query can be read as it stands if its phrases are not too long. -/
theorem regular_asked {text : String} {fields : List String} {analyzer : Analyzer}
    (near : ∀ phrase, .phrase phrase ∈ QueryPart.scan text.toList →
      ∀ token ∈ analyzer.tokens phrase, token.position.toNat < 2 ^ 31) :
    (asked text fields analyzer).Regular := by
  refine regular_any fun query member => ?_
  obtain ⟨part, scanned, asks⟩ := List.mem_flatMap.mp member
  cases part with
  | word text =>
    obtain ⟨token, -, rfl⟩ := List.mem_map.mp asks
    refine regular_any fun query member => ?_
    obtain ⟨field, -, rfl⟩ := List.mem_map.mp member
    exact regular_boost_ofTerm field.name token.term field.boost
  | phrase text =>
    have low := near text scanned
    simp only [QueryPart.tokens, QueryPart.text_phrase] at asks
    cases own : analyzer.tokens text with
    | nil =>
      rw [own] at asks
      cases asks
    | cons head rest =>
      rw [own] at asks low
      obtain rfl := List.mem_singleton.mp asks
      refine regular_any fun query member => ?_
      obtain ⟨field, -, rfl⟩ := List.mem_map.mp member
      exact regular_boost_ofTokens _ _ low

end Query

/-- The hits of a query that can be read as it stands are the documents that it is true of. -/
theorem Plan.Binds.exists_hits {index : Index} (sound : index.Sound) (complete : index.Complete)
    (low : ∀ doc document field tokens, index.document? doc = some document →
      (field, tokens) ∈ document.tokens → ∀ token ∈ tokens, token.position.toNat < 2 ^ 31)
    {query : Query} {plan : Plan} (binds : Binds index query plan) (regular : query.Regular)
    (similarity : Similarity) :
    ∃ hits, plan.hits index similarity = .ok hits ∧ (hits.map ScoredDoc.doc).Nodup ∧
      ∀ doc, doc ∈ hits.map ScoredDoc.doc ↔ ∃ document, index.document? doc = some document ∧
        query.Satisfied index.schema document := by
  obtain ⟨hits, found, ascending, mem_hits_iff⟩ := Plan.exists_hits binds.placed
  have matches_iff : ∀ doc document, index.document? doc = some document →
      (plan.Matches index doc ↔ query.Satisfied index.schema document) :=
    fun doc document stored => binds.matches_iff_satisfied sound complete stored
      (fun field tokens listed => low doc document field tokens stored listed) regular.exact
  refine ⟨hits, found, ascending.imp Nat.ne_of_lt, fun doc => (mem_hits_iff doc).trans ?_⟩
  constructor
  · rintro ⟨candidate, matched⟩
    obtain ⟨document, stored⟩ :=
      Option.isSome_iff_exists.mp (isSome_document_of_candidate sound candidate)
    exact ⟨document, stored, (matches_iff doc document stored).mp matched⟩
  · rintro ⟨document, stored, satisfied⟩
    have matched := (matches_iff doc document stored).mpr satisfied
    exact ⟨binds.mem_candidates sound regular.filled matched, matched⟩

end Relevance
