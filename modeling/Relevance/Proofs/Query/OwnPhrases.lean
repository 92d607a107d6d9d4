import Relevance.Proofs.Analysis.Positions
import Relevance.Proofs.Index.Known
import Relevance.Proofs.Query.Meaning
import Relevance.Proofs.Query.Searching
import Relevance.Proofs.Query.Slop

set_option autoImplicit false

namespace Relevance

namespace Phrase

variable {base : Int} {start offset : UInt32} {starts : List UInt32} {rest : List (List UInt32)}
  {offsets : List UInt32}

theorem StandsFrom.occupied (stands : StandsFrom base rest offsets) :
    rest.any List.isEmpty = false := by
  unfold StandsFrom at stands
  induction stands with
  | nil => rfl
  | cons first _ ih =>
    obtain ⟨position, listed, -⟩ := first
    rw [List.any_cons, ih, Bool.or_false, List.isEmpty_eq_false_iff]
    exact List.ne_nil_of_mem listed

/-- Where all terms stand in their places, one behind the other, the phrase is found with every
slop. -/
theorem StandsFrom.zero_lt_freq (stands : StandsFrom (start.toNat - offset.toNat) rest offsets)
    (listed : start ∈ starts) (ascending : ∀ positions ∈ rest, positions.Pairwise (· ≤ ·))
    (increasing : (offset :: offsets).Pairwise (· < ·)) (slop : UInt32) :
    ∃ found, freq (starts :: rest) (offset :: offsets) slop = .ok found ∧ 0.0 < found := by
  have placed : offsets.length = rest.length := (List.Forall₂.length_eq stands).symm
  by_cases none : slop = 0
  · have inPlace := stands.allInPlace ascending
    have occupied : (starts :: rest).any List.isEmpty = false := by
      rw [List.any_cons, stands.occupied, Bool.or_false, List.isEmpty_eq_false_iff]
      exact List.ne_nil_of_mem listed
    have counted : freq (starts :: rest) (offset :: offsets) slop =
        .ok ((starts.filterMap fun start =>
          if Phrase.allInPlace (start.toNat - offset.toNat) rest offsets then some 1.0
          else Option.none).foldl (· + ·) 0.0) := by
      rw [freq, occupied, if_neg Bool.false_ne_true, if_pos none, exactFreq_eq_ok]
    have whole : (offset :: offsets).length = (starts :: rest).length := congrArg Nat.succ placed
    refine ⟨_, counted, (zero_lt_freq_iff whole counted).mpr ?_⟩
    exact (countOnes_iff starts _).mpr ⟨start, listed, inPlace⟩
  · -- What counts with no slop allowed counts with every slop.
    have counts : CountsAt start offset rest offsets slop :=
      ((countsAt_zero_iff ascending placed increasing).mpr stands).mono UInt32.zero_le
    exact ⟨_, freq_eq_ok ascending placed none, (zero_lt_sum_iff starts).mpr ⟨start, listed, counts⟩⟩

end Phrase

variable {head : Token} {rest tokens own : List Token}

theorem position_le_of_increasing (increasing : (head :: rest).Pairwise (·.position < ·.position)) :
    ∀ token ∈ head :: rest, head.position ≤ token.position := by
  rw [List.forall_mem_cons]
  refine ⟨UInt32.le_refl _, ?_⟩
  intro token member
  exact UInt32.le_of_lt ((List.pairwise_cons.mp increasing).1 token member)

theorem firstPosition_of_increasing
    (increasing : (head :: rest).Pairwise (·.position < ·.position)) :
    firstPosition? (head :: rest) = some head.position := by
  apply List.min?_eq_some_iff.mpr
  rw [List.forall_mem_map]
  exact ⟨List.mem_cons_self, position_le_of_increasing increasing⟩

theorem offsetsFrom_increasing (increasing : (head :: rest).Pairwise (·.position < ·.position)) :
    (offsetsFrom head.position (head :: rest)).Pairwise (· < ·) := by
  have after := position_le_of_increasing increasing
  rw [offsetsFrom, List.pairwise_map]
  apply increasing.imp_of_mem
  intro token other member further less
  have low := UInt32.le_iff_toNat_le.mp (after token member)
  have order := UInt32.lt_iff_toNat_lt.mp less
  rw [UInt32.lt_iff_toNat_lt, UInt32.toNat_sub_of_le _ _ (after token member),
    UInt32.toNat_sub_of_le _ _ (after other further)]
  omega

/-- Tokens of a text stand in their places there. -/
theorem standsFrom_tokens {first : UInt32} (among : ∀ token ∈ tokens, token ∈ own)
    (after : ∀ token ∈ tokens, first ≤ token.position) :
    Phrase.StandsFrom first.toNat (tokens.map fun token => positionsOf token.term own)
      (offsetsFrom first tokens) := by
  unfold Phrase.StandsFrom offsetsFrom
  rw [List.forall₂_map_left_iff, List.forall₂_map_right_iff, List.forall₂_same]
  intro token member
  have low := UInt32.le_iff_toNat_le.mp (after token member)
  refine ⟨token.position, (mem_positionsOf _ _ _).mpr (among token member), ?_⟩
  rw [UInt32.toNat_sub_of_le _ _ (after token member)]
  omega

/-- Tokens of a text in their order are a phrase that stands in it. -/
theorem exists_freq_of_own_tokens (among : (head :: rest).Sublist own)
    (increasing : (head :: rest).Pairwise (·.position < ·.position)) (slop : UInt32) :
    ∃ found, Phrase.freq ((head :: rest).map fun token => positionsOf token.term own)
      (offsetsFrom head.position (head :: rest)) slop = .ok found ∧ 0.0 < found := by
  have further := (List.sublist_cons_self head rest).trans among
  have after := position_le_of_increasing increasing
  have stands : Phrase.StandsFrom (head.position.toNat - (head.position - head.position).toNat)
      (rest.map fun token => positionsOf token.term own) (offsetsFrom head.position rest) := by
    rw [UInt32.sub_self, UInt32.toNat_zero, Int.natCast_zero, Int.sub_zero]
    exact standsFrom_tokens (fun _ => further.mem) (List.forall_mem_cons.mp after).2
  have listed : head.position ∈ positionsOf head.term own :=
    (mem_positionsOf _ _ _).mpr (among.mem List.mem_cons_self)
  have ascending : ∀ positions ∈ rest.map fun token => positionsOf token.term own,
      positions.Pairwise (· ≤ ·) := by
    rw [List.forall_mem_map]
    exact fun token _ => positionsOf_ascending token.term own
  exact stands.zero_lt_freq listed ascending (offsetsFrom_increasing increasing) slop

variable {index : Index} {similarity : Similarity} {doc : DocId} {name : String} {id : FieldId}
  {slop : UInt32} {plan : Plan} {query : Query}

/-- A document that is matched has a score, and a search collects it with that score. -/
theorem Plan.Binds.exists_hit (binds : Plan.Binds index query plan) (sound : index.Sound)
    (filled : .conjunction [] ∉ query.subqueries) (matched : plan.Matches index doc) :
    ∃ score hits, plan.score index similarity doc = .ok (some score) ∧
      plan.hits index similarity = .ok hits ∧ ⟨doc, score⟩ ∈ hits := by
  have each : ∀ other, ∃ found, plan.score index similarity other = .ok found ∧
      (found.isSome ↔ plan.Matches index other) := Plan.exists_score binds.placed
  choose found scored matches_iff using each
  obtain ⟨score, has⟩ := Option.isSome_iff_exists.mp ((matches_iff doc).mpr matched)
  have candidate := binds.mem_candidates sound filled matched
  refine ⟨score, _, (scored doc).trans (congrArg Except.ok has), Plan.hits_eq_ok scored, ?_⟩
  apply List.mem_filterMap.mpr
  exact ⟨doc, Std.ExtTreeSet.mem_toList.mpr candidate, by rw [has]; rfl⟩

theorem Query.filled_ofTokens (field : String) (tokens : List Token) (slop : UInt32) :
    .conjunction [] ∉ (Query.ofTokens field tokens slop).subqueries := by
  match tokens with
  | [] => simp [ofTokens, subqueries]
  | [token] => simp [ofTokens, ofTerm, subqueries]
  | first :: second :: rest => simp [ofTokens, subqueries]

theorem Index.Knows.positionsOfPhrase_eq (knows : index.Knows doc name id own)
    (sound : index.Sound) (there : (index.document? doc).isSome) (tokens : List Token) :
    index.positionsOfPhrase doc id tokens = tokens.map fun token => positionsOf token.term own := by
  simp only [Index.positionsOfPhrase, knows.positions_eq sound there]

/-- A document is matched by its own tokens in their order. -/
theorem Plan.Binds.matches_own_tokens
    (binds : Plan.Binds index (.ofTokens name tokens slop) plan) (sound : index.Sound)
    (knows : index.Knows doc name id own) (there : (index.document? doc).isSome)
    (increasing : own.Pairwise (·.position < ·.position)) (among : tokens.Sublist own)
    (nonempty : tokens ≠ []) : plan.Matches index doc := by
  match tokens with
  | [token] =>
    cases binds with
    | unknownTerm unknown => cases unknown.symm.trans knows.named
    | @term _ _ _ clause named looks =>
      cases named.symm.trans knows.named
      rw [matches_leaf, Clause.occurs_term_iff sound looks, knows.positions_eq sound there,
        ne_eq, positionsOf_eq_nil_iff, not_not]
      exact List.mem_map_of_mem (among.mem List.mem_cons_self)
  | head :: second :: rest =>
    have increasing := increasing.sublist among
    have first := firstPosition_of_increasing increasing
    obtain ⟨found, counted, positive⟩ := exists_freq_of_own_tokens among increasing slop
    rw [← knows.positionsOfPhrase_eq sound there] at counted
    exact binds.matches_phrase_iff.mpr ⟨id, head.position, found, knows.named, first, counted, positive⟩

namespace Index

/-- A document has a score, and every search collects it with that score. -/
def Finds (index : Index) (similarity : Similarity) (query : Query) (doc : DocId) : Prop :=
  ∃ score hits, index.score similarity query doc = .ok (some score) ∧
    (∀ {α : Type} (collector : Collector α) (start : α),
      index.search similarity query collector start = .ok (collector.collectAll hits start)) ∧
    ⟨doc, score⟩ ∈ hits

/-- A document is found by tokens that its field knows, in their order. -/
theorem Sound.finds_own_tokens (sound : index.Sound) (knows : index.Knows doc name id own)
    (there : (index.document? doc).isSome) (increasing : own.Pairwise (·.position < ·.position))
    (among : tokens.Sublist own) (nonempty : tokens ≠ []) (similarity : Similarity)
    (slop : UInt32) :
    index.Finds similarity (.ofTokens name tokens slop) doc ∨
    UInt64.size ≤ index.maxDoc + 2 ∧
      index.score similarity (.ofTokens name tokens slop) doc = .error .additionOverflow ∧
      ∀ {α : Type} (collector : Collector α) (start : α),
        index.search similarity (.ofTokens name tokens slop) collector start =
          .error .additionOverflow := by
  rcases sound.plan_cases similarity (.ofTokens name tokens slop) with
    ⟨plan, planned, binds⟩ | ⟨failed, overflow⟩
  · left
    have matched := binds.matches_own_tokens sound knows there increasing among nonempty
    obtain ⟨score, hits, scored, found, member⟩ :=
      binds.exists_hit sound (Query.filled_ofTokens name tokens slop) matched
    refine ⟨score, hits, ?_, search_eq_ok planned found, member⟩
    rw [Index.score, planned, Fault.ok_bind, scored]
  · right
    obtain ⟨unscored, unsearched⟩ := plan_eq_error failed
    exact ⟨overflow, unscored doc, unsearched⟩

/-- A text with one of its words twice, and a stop word in between. -/
def henText : List Char :=
  "red hen or red fox".toList

def henTokens : List Token := [
  ⟨.ofString "red", 1⟩, ⟨.ofString "hen", 2⟩, ⟨.ofString "red", 4⟩, ⟨.ofString "fox", 5⟩]

def henDocument : Document := (Document.ofKey "a").withTokens 0 henTokens

/-- A field for the text, and what happens after it is put in. -/
def henField : Operation := .addField ⟨"body", .text, ⟨true, false, false⟩⟩

def laterThanHen : List Operation := [
  .insert ((Document.ofKey "b").withTokens 0 [⟨.ofString "red", 1⟩]), .erase "c"]

end Index

end Relevance
