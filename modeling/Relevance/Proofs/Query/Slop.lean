import Relevance.Proofs.Numeric.Signs
import Relevance.Proofs.Query.Matching
import Relevance.Proofs.Query.Occurrences

set_option autoImplicit false

namespace Relevance

namespace Phrase

variable {start offset slop wider : UInt32} {starts : List UInt32} {rest : List (List UInt32)}
  {offsets : List UInt32}

theorem CountsAt.mono (counts : CountsAt start offset rest offsets slop) (larger : slop ≤ wider) :
    CountsAt start offset rest offsets wider := by
  obtain ⟨length, same, short⟩ := counts
  have order := UInt32.le_iff_toNat_le.mp larger
  exact ⟨length, same, by omega⟩

/-- The frequency is above zero exactly if some start counts, also without slop if the terms of the
phrase stand one behind the other. -/
theorem exists_freq_and_zero_lt_iff (starts : List UInt32) (offset slop : UInt32)
    (ascending : ∀ positions ∈ rest, positions.Pairwise (· ≤ ·))
    (placed : offsets.length = rest.length) (ordered : slop = 0 →
      (offset :: offsets).Pairwise (· < ·) ∧ PlacesFit (starts :: rest) (offset :: offsets)) :
    ∃ found, freq (starts :: rest) (offset :: offsets) slop = .ok found ∧
      (0.0 < found ↔ ∃ start ∈ starts, CountsAt start offset rest offsets slop) := by
  refine ⟨_, ?_, zero_lt_sum_iff starts⟩
  by_cases none : slop = 0
  · obtain ⟨increasing, fit⟩ := ordered none
    rw [none, freq]
    split
    · rename_i missing
      rw [sum_of_missing ascending placed missing]
    · rw [if_pos rfl]
      exact exactFreq_eq_ok_of_increasing ascending placed increasing fit
  · exact freq_eq_ok ascending placed none

theorem freq_nil (offsets : List UInt32) (slop : UInt32) : freq [] offsets slop = .ok 0.0 := by
  simp only [freq, List.any_nil, Bool.false_eq_true, exactFreq, sloppyFreq, ite_self]

/-- A phrase that occurs with one slop occurs with another. -/
def Keeps (positions : List (List UInt32)) (offsets : List UInt32) (slop wider : UInt32) : Prop :=
  ∀ found, freq positions offsets slop = .ok found → 0.0 < found →
    ∃ more, freq positions offsets wider = .ok more ∧ 0.0 < more

theorem keeps_of_le {positions : List (List UInt32)}
    (ascending : ∀ list ∈ positions, list.Pairwise (· ≤ ·))
    (placed : offsets.length = positions.length) (larger : slop ≤ wider)
    (ordered : slop = 0 → wider ≠ 0 →
      offsets.Pairwise (· < ·) ∧ PlacesFit positions offsets) :
    Keeps positions offsets slop wider := by
  intro found counted positive
  -- Without slop on both sides nothing is known of the order, and nothing changes.
  by_cases same : slop = wider
  · rw [← same]
    exact ⟨found, counted, positive⟩
  have some : wider ≠ 0 := by
    intro zero
    rw [zero, UInt32.le_zero_iff] at larger
    exact same (larger.trans zero.symm)
  cases positions with
  | nil =>
    rw [freq_nil] at counted
    cases counted
    exact absurd positive Single.not_zero_lt_zero
  | cons starts rest =>
    cases offsets with
    | nil => cases placed
    | cons offset offsets =>
      rw [List.forall_mem_cons] at ascending
      have placed := Nat.succ.inj placed
      obtain ⟨before, first, counts⟩ := exists_freq_and_zero_lt_iff starts offset slop
        ascending.2 placed fun none => ordered none some
      obtain ⟨after, second, countsMore⟩ := exists_freq_and_zero_lt_iff starts offset wider
        ascending.2 placed fun none => absurd none some
      rw [first] at counted
      cases counted
      obtain ⟨start, listed, here⟩ := counts.mp positive
      exact ⟨after, second, countsMore.mpr ⟨start, listed, here.mono larger⟩⟩

/-- In a text of nothing but the phrase each term stands in its place. -/
theorem standsFrom_own (offsets : List UInt32) : StandsFrom 0 (offsets.map ([·])) offsets := by
  unfold StandsFrom
  rw [List.forall₂_map_left_iff]
  apply List.forall₂_same.mpr
  intro place _
  exact ⟨place, List.mem_singleton_self place, (Int.zero_add _).symm⟩

theorem InOrder.increasing {previous : Int} {offsets chosen : List UInt32}
    (inOrder : InOrder previous (offsets.map ([·])) chosen) :
    (∀ place ∈ offsets, previous < place.toNat) ∧ offsets.Pairwise (· < ·) := by
  induction offsets generalizing previous chosen with
  | nil => exact ⟨nofun, .nil⟩
  | cons place offsets ih =>
    cases inOrder with
    | cons listed after further =>
      cases List.mem_singleton.mp listed
      obtain ⟨later, increasing⟩ := ih further
      rw [List.forall_mem_cons, List.pairwise_cons]
      refine ⟨⟨after, ?_⟩, ?_, increasing⟩
      · intro other member
        have behind := later other member
        omega
      · intro other member
        have behind := later other member
        rw [UInt32.lt_iff_toNat_lt]
        omega

theorem own_ascending (offsets : List UInt32) :
    ∀ list ∈ offsets.map ([·]), list.Pairwise (· ≤ ·) := by
  intro list member
  obtain ⟨place, -, rfl⟩ := List.mem_map.mp member
  exact List.pairwise_singleton _ place

/-- Without slop a phrase is found once in a text of its own words. -/
theorem freq_own_words (offset : UInt32) (offsets : List UInt32) :
    freq ((offset :: offsets).map ([·])) (offset :: offsets) 0 = .ok 1.0 := by
  have stands : allInPlace (offset.toNat - offset.toNat) (offsets.map ([·])) offsets = true := by
    rw [Int.sub_self]
    exact (standsFrom_own offsets).allInPlace (own_ascending offsets)
  have occupied : ((offset :: offsets).map ([·])).any List.isEmpty = false := by simp
  have one : (0.0 : Float32) + 1.0 = 1.0 := by
    apply Single.zero_add_of_ne
    rw [Single.unpack_one]
    exact nofun
  rw [freq, occupied, List.map_cons]
  simp only [Bool.false_eq_true, if_false, if_true, exactFreq_eq_ok, List.filterMap_cons, stands,
    List.filterMap_nil, List.foldl_cons, List.foldl_nil, one]

/-- With slop the own words of a phrase count only if they stand one behind the other. -/
theorem CountsAt.increasing
    (counts : CountsAt offset offset (offsets.map ([·])) offsets slop) :
    (offset :: offsets).Pairwise (· < ·) := by
  obtain ⟨chosen, inOrder, -⟩ := counts.occursAt (own_ascending offsets) (List.length_map _).symm
  -- Each term has one position, so the choice is the phrase itself, taken from before its first term.
  have own : InOrder (offset.toNat - 1) ((offset :: offsets).map ([·])) (offset :: chosen) :=
    .cons (List.mem_singleton_self offset) (by omega) inOrder
  exact own.increasing.2

/-- A phrase with terms that do not stand one behind the other finds its own words without slop, and
with any slop it does not. -/
theorem own_words_lost (unordered : ¬ offsets.Pairwise (· < ·)) (some : wider ≠ 0) :
    ∃ positions, offsets.length = positions.length ∧
      (∀ list ∈ positions, list.Pairwise (· ≤ ·)) ∧ PlacesFit positions offsets ∧
      ¬ Keeps positions offsets 0 wider := by
  cases offsets with
  | nil => exact absurd .nil unordered
  | cons offset offsets =>
    have fit : PlacesFit ((offset :: offsets).map ([·])) (offset :: offsets) := by
      intro start listed place _
      cases List.mem_singleton.mp listed
      have room := place.toNat_lt
      omega
    have lost : ¬ Keeps ((offset :: offsets).map ([·])) (offset :: offsets) 0 wider := by
      intro keeps
      obtain ⟨more, counted, positive⟩ := keeps 1.0 (freq_own_words offset offsets)
        ((Single.zero_lt_iff _).mpr Single.positive_one)
      obtain ⟨found, same, counts⟩ := exists_freq_and_zero_lt_iff [offset] offset wider
        (own_ascending offsets) (List.length_map _).symm fun none => absurd none some
      rw [List.map_cons, same] at counted
      cases counted
      obtain ⟨start, listed, here⟩ := counts.mp positive
      cases List.mem_singleton.mp listed
      exact unordered here.increasing
    exact ⟨_, (List.length_map _).symm, own_ascending _, fit, lost⟩

/-- A sum of what starts count is a number, so that it is above zero or is zero. -/
theorem zero_lt_sum_iff_not_le {part : UInt32 → Option Float32}
    (positive : ∀ start amount, part start = some amount → Single.Positive amount) :
    0.0 < (starts.filterMap part).foldl (· + ·) 0.0 ↔
      ¬ (starts.filterMap part).foldl (· + ·) 0.0 ≤ 0.0 := by
  by_cases none : ∀ start ∈ starts, part start = none
  · rw [sum_of_none none]
    exact iff_of_false Single.not_zero_lt_zero (not_not_intro Single.zero_le_zero)
  · obtain ⟨start, listed, counted⟩ := not_forall₂.mp none
    have above := positive_sum positive listed (Option.isSome_iff_ne_none.mpr counted)
    exact iff_of_true ((Single.zero_lt_iff _).mpr above) above.not_le_zero

/-- A frequency is above zero or is zero. -/
theorem zero_lt_freq_iff {positions : List (List UInt32)} (placed : offsets.length = positions.length)
    {found : Float32} (counted : freq positions offsets slop = .ok found) :
    0.0 < found ↔ ¬ found ≤ 0.0 := by
  have none : (0.0 : Float32) < 0.0 ↔ ¬ (0.0 : Float32) ≤ 0.0 :=
    iff_of_false Single.not_zero_lt_zero (not_not_intro Single.zero_le_zero)
  unfold freq at counted
  split at counted
  · cases counted
    exact none
  cases positions with
  | nil =>
    simp only [exactFreq, sloppyFreq, ite_self] at counted
    cases counted
    exact none
  | cons starts rest =>
    cases offsets with
    | nil => cases placed
    | cons offset offsets =>
      split at counted
      · rw [exactFreq_eq_ok] at counted
        cases counted
        apply zero_lt_sum_iff_not_le
        intro start amount same
        rw [Option.ite_none_right_eq_some] at same
        cases same.2
        exact Single.positive_one
      · rw [sloppyFreq_eq_ok] at counted
        cases counted
        apply zero_lt_sum_iff_not_le
        intro start amount
        exact positive_of_countedAt

end Phrase

variable {index : Index} {similarity : Similarity} {field : String} {tokens : List Token}
  {slop wider : UInt32} {boost : Float32} {doc : DocId}

theorem Index.Sound.positions_ascending (sound : index.Sound) (doc : DocId) (field : FieldId)
    (term : Term) : (index.positions doc field term).Pairwise (· ≤ ·) := by
  by_cases known : index.positions doc field term = []
  · rw [known]
    exact .nil
  · obtain ⟨document, own, -, -, same⟩ := sound.known_of_positions known
    rw [same]
    exact positionsOf_ascending term own

/-- Where the terms of a phrase stand in a field of a document. -/
def Index.positionsOfPhrase (index : Index) (doc : DocId) (field : FieldId) (tokens : List Token) :
    List (List UInt32) :=
  tokens.map fun token => index.positions doc field token.term

/-- How far the tokens of a phrase stand behind a position. -/
def offsetsFrom (first : UInt32) (tokens : List Token) : List UInt32 :=
  tokens.map fun token => token.position - first

theorem length_offsetsFrom (first : UInt32) (tokens : List Token) (doc : DocId) (field : FieldId) :
    (offsetsFrom first tokens).length = (index.positionsOfPhrase doc field tokens).length := by
  simp only [offsetsFrom, Index.positionsOfPhrase, List.length_map]

theorem Index.Sound.positionsOfPhrase_ascending (sound : index.Sound) (doc : DocId)
    (field : FieldId) (tokens : List Token) :
    ∀ list ∈ index.positionsOfPhrase doc field tokens, list.Pairwise (· ≤ ·) := by
  intro list member
  obtain ⟨token, -, rfl⟩ := List.mem_map.mp member
  exact sound.positions_ascending doc field token.term

/-- Whether a phrase matches a document is told by its frequency there. -/
theorem Plan.Binds.matches_phrase_iff {plan : Plan}
    (binds : Plan.Binds index (.phrase field tokens slop boost) plan) : plan.Matches index doc ↔
      ∃ id first found, index.schema.find? field = some id ∧ firstPosition? tokens = some first ∧
        Phrase.freq (index.positionsOfPhrase doc id tokens) (offsetsFrom first tokens) slop =
          .ok found ∧ 0.0 < found := by
  cases binds with
  | unknownPhrase unknown =>
    apply iff_of_false matches_matchNone
    rintro ⟨id, first, found, known, -⟩
    cases unknown.symm.trans known
  | emptyPhrase =>
    apply iff_of_false matches_matchNone
    rintro ⟨id, first, found, -, least, -⟩
    cases least
  | @phrase _ _ _ _ clause first known least looks =>
    have placed : (offsetsFrom first tokens).length =
        (index.positionsOfPhrase doc clause.field tokens).length :=
      length_offsetsFrom first tokens doc clause.field
    rw [matches_leaf, Clause.Occurs, Clause.freq_of_phrase looks, List.map_map]
    constructor
    · rintro ⟨found, counted, positive⟩
      refine ⟨clause.field, first, found, known, least, counted, ?_⟩
      exact (Phrase.zero_lt_freq_iff placed counted).mpr positive
    · rintro ⟨id, other, found, same, again, counted, positive⟩
      cases known.symm.trans same
      cases least.symm.trans again
      exact ⟨found, counted, (Phrase.zero_lt_freq_iff placed counted).mp positive⟩

/-- The weight of a clause is made from its terms. -/
theorem Clause.exists_ofMatcher {id : FieldId} {matcher : Matcher} {description : String}
    {clause : Clause} (made : Clause.ofMatcher index similarity id matcher boost description =
      .ok clause) (other : Matcher) (same : matcher.terms = other.terms) (text : String) :
    ∃ twin, Clause.ofMatcher index similarity id other boost text = .ok twin := by
  unfold Clause.ofMatcher at made ⊢
  rw [same] at made
  obtain ⟨weight, weighed, -⟩ := Fault.bind_eq_ok_iff.mp made
  exact ⟨_, Fault.bind_eq_ok_iff.mpr ⟨weight, weighed, rfl⟩⟩

/-- A phrase that can be bound can be bound with every slop. -/
theorem Index.exists_plan_of_slop {plan : Plan}
    (planned : index.plan similarity (.phrase field tokens slop boost) = .ok plan)
    (wider : UInt32) :
    ∃ other, index.plan similarity (.phrase field tokens wider boost) = .ok other := by
  obtain ⟨bound, success, -⟩ := Fault.bind_eq_ok_iff.mp planned
  suffices made : ∃ other, Plan.ofQuery index similarity (.phrase field tokens wider boost) =
      .ok other by
    obtain ⟨other, made⟩ := made
    exact ⟨_, Fault.bind_eq_ok_iff.mpr ⟨other, made, rfl⟩⟩
  rw [Plan.ofQuery] at success ⊢
  cases known : index.schema.find? field with
  | none => exact ⟨_, rfl⟩
  | some id =>
    rw [known] at success
    simp only [Matcher.ofTokens?_eq_ok, Fault.ok_bind] at success ⊢
    cases least : firstPosition? tokens with
    | none => exact ⟨_, rfl⟩
    | some first =>
      simp only [least, Option.map_some, Fault.bind_eq_ok_iff] at success ⊢
      obtain ⟨clause, made, -⟩ := success
      obtain ⟨twin, made⟩ := Clause.exists_ofMatcher made (.ofPhrase tokens first wider) rfl
        (Query.text (.phrase field tokens wider boost))
      exact ⟨_, twin, made, rfl⟩

/-- The tokens of a phrase stand one behind the other, and in the field of a document no place of
the phrase lies beyond the last position. -/
def Index.TokensFollow (index : Index) (doc : DocId) (field : String) (tokens : List Token) : Prop :=
  ∀ id first, index.schema.find? field = some id → firstPosition? tokens = some first →
    (offsetsFrom first tokens).Pairwise (· < ·) ∧
      Phrase.PlacesFit (index.positionsOfPhrase doc id tokens) (offsetsFrom first tokens)

/-- A document with a score for a phrase has one for the phrase with a larger slop. -/
theorem Index.Sound.exists_score_of_le (sound : index.Sound) (larger : slop ≤ wider)
    (ordered : slop = 0 → wider ≠ 0 → index.TokensFollow doc field tokens) {score : Float32}
    (scored : index.score similarity (.phrase field tokens slop boost) doc = .ok (some score)) :
    ∃ more, index.score similarity (.phrase field tokens wider boost) doc = .ok (some more) := by
  obtain ⟨plan, planned, scored⟩ := Fault.bind_eq_ok_iff.mp scored
  obtain ⟨other, bound⟩ := Index.exists_plan_of_slop planned wider
  have binds := Index.binds_of_plan planned
  have looks := Index.binds_of_plan bound
  obtain ⟨found, same, matched⟩ : ∃ found, plan.score index similarity doc = .ok found ∧
      (found.isSome ↔ plan.Matches index doc) := Plan.exists_score binds.placed doc
  obtain ⟨more, wide, matches_iff⟩ : ∃ more, other.score index similarity doc = .ok more ∧
      (more.isSome ↔ other.Matches index doc) := Plan.exists_score looks.placed doc
  rw [scored] at same
  cases same
  obtain ⟨id, first, freq, known, least, counted, positive⟩ :=
    binds.matches_phrase_iff.mp (matched.mp rfl)
  have keeps : Phrase.Keeps (index.positionsOfPhrase doc id tokens) (offsetsFrom first tokens) slop
      wider := by
    apply Phrase.keeps_of_le (sound.positionsOfPhrase_ascending doc id tokens)
      (length_offsetsFrom first tokens doc id) larger
    intro none some
    exact ordered none some id first known least
  obtain ⟨wideFreq, again, above⟩ := keeps freq counted positive
  have matching := looks.matches_phrase_iff.mpr ⟨id, first, wideFreq, known, least, again, above⟩
  obtain ⟨value, has⟩ := Option.isSome_iff_exists.mp (matches_iff.mpr matching)
  refine ⟨value, ?_⟩
  rw [Index.score, bound, Fault.ok_bind, wide, has]

/-- Raising the slop of a phrase loses no match and no document if there was some slop before.
Raised from none it loses none as long as the terms of the phrase stand one behind the other and all
its places are positions, and for every other order of the terms there is a text in which it does.
-/
theorem larger_slop_keeps_matches (larger : slop ≤ wider) :
    (∀ positions offsets, (∀ list ∈ positions, list.Pairwise (· ≤ ·)) →
      offsets.length = positions.length →
      (slop = 0 → wider ≠ 0 →
        offsets.Pairwise (· < ·) ∧ Phrase.PlacesFit positions offsets) →
      Phrase.Keeps positions offsets slop wider) ∧
    (∀ {weighed operations index}, Index.run weighed operations = .ok index →
      ∀ similarity field tokens boost doc score,
        (slop = 0 → wider ≠ 0 → index.TokensFollow doc field tokens) →
        index.score similarity (.phrase field tokens slop boost) doc = .ok (some score) →
        ∃ more, index.score similarity (.phrase field tokens wider boost) doc = .ok (some more)) ∧
    (slop = 0 → wider ≠ 0 → ∀ offsets, ¬ offsets.Pairwise (· < ·) →
      ∃ positions, offsets.length = positions.length ∧
        (∀ list ∈ positions, list.Pairwise (· ≤ ·)) ∧ Phrase.PlacesFit positions offsets ∧
        ¬ Phrase.Keeps positions offsets slop wider) := by
  refine ⟨?_, ?_, ?_⟩
  · intro positions offsets ascending placed ordered
    exact Phrase.keeps_of_le ascending placed larger ordered
  · intro weighed operations index reached similarity field tokens boost doc score ordered scored
    have sound : index.Sound := Index.sound_of_run reached
    exact sound.exists_score_of_le larger ordered scored
  · intro none some offsets unordered
    rw [none]
    exact Phrase.own_words_lost unordered some

/-- Two words of a document with three others between them. -/
def distantWords : List Token := [⟨.ofString "red", 2⟩, ⟨.ofString "hen", 6⟩]

theorem shelf_slop_keeps_matches : Phrase.Keeps [[0], [4]] [0, 4] 0 3 ∧
    ∃ index score more, Index.run .smoothed Index.shelf = .ok index ∧
      index.TokensFollow 2 "title" distantWords ∧
      index.score .classic (.phrase "title" distantWords 0 2.0) 2 = .ok (some score) ∧
      index.score .classic (.phrase "title" distantWords 3 2.0) 2 = .ok (some more) := by
  obtain ⟨index, reached, -⟩ := Index.exists_run_shelf
  have answers : (Index.run .smoothed Index.shelf).toOption.map (fun index =>
      ((index.score .classic (.phrase "title" distantWords 0 2.0) 2).toOption.map Option.isSome,
        index.schema.find? "title", index.positionsOfPhrase 2 0 distantWords)) =
      some (some true, some 0, [[0], [4]]) := by decide +kernel
  simp only [reached, Except.toOption, Option.map_some, Option.some.injEq, Prod.mk.injEq] at answers
  obtain ⟨scored, named, stands⟩ := answers
  have increasing : ([0, 4] : List UInt32).Pairwise (· < ·) := by decide
  have fit : Phrase.PlacesFit [[0], [4]] [0, 4] := by simp [Phrase.PlacesFit]
  have follow : index.TokensFollow 2 "title" distantWords := by
    intro id first known least
    cases named.symm.trans known
    cases (show firstPosition? distantWords = some 2 by decide).symm.trans least
    rw [stands]
    exact ⟨increasing, fit⟩
  obtain ⟨lists, documents, -⟩ := larger_slop_keeps_matches (show (0 : UInt32) ≤ 3 by decide)
  have keeps := lists [[0], [4]] [0, 4] (by decide) rfl fun _ _ => ⟨increasing, fit⟩
  cases found : index.score .classic (.phrase "title" distantWords 0 2.0) 2 with
  | error reason =>
    rw [found] at scored
    cases scored
  | ok result =>
    rw [found] at scored
    obtain ⟨score, rfl⟩ := Option.isSome_iff_exists.mp (Option.some.inj scored)
    obtain ⟨more, wider⟩ := documents reached .classic "title" distantWords 2.0 2 score
      (fun _ _ => follow) found
    exact ⟨keeps, index, score, more, reached, follow, found, wider⟩

/-- Two words on one position, and a document that has them there. -/
def stackedWords : List Token := [⟨.ofString "quick", 1⟩, ⟨.ofString "fast", 1⟩]

/-- The phrase of the document's own words finds it without slop, and with slop does not. -/
theorem stacked_words_lost :
    Phrase.freq [[1], [1]] (offsetsFrom 1 stackedWords) 0 = .ok 1.0 ∧
    Phrase.freq [[1], [1]] (offsetsFrom 1 stackedWords) 1 = .ok 0.0 ∧
    ∃ index, Index.run .smoothed [.addField ⟨"body", .text, ⟨true, false, false⟩⟩,
        .insert ((Document.ofKey "a").withTokens 0 stackedWords)] = .ok index ∧
      index.search .smoothed (.phrase "body" stackedWords 0 1.0) .count 0 = .ok 1 ∧
      index.search .smoothed (.phrase "body" stackedWords 1 1.0) .count 0 = .ok 0 := by
  refine ⟨by decide +kernel, by decide +kernel, ?_⟩
  have answers : (Index.run .smoothed [.addField ⟨"body", .text, ⟨true, false, false⟩⟩,
      .insert ((Document.ofKey "a").withTokens 0 stackedWords)]).toOption.map (fun index =>
        (index.search .smoothed (.phrase "body" stackedWords 0 1.0) .count 0,
          index.search .smoothed (.phrase "body" stackedWords 1 1.0) .count 0)) =
      some (.ok 1, .ok 0) := by decide +kernel
  cases reached : Index.run .smoothed [.addField ⟨"body", .text, ⟨true, false, false⟩⟩,
      .insert ((Document.ofKey "a").withTokens 0 stackedWords)] with
  | error reason =>
    rw [reached] at answers
    cases answers
  | ok index =>
    rw [reached] at answers
    have both := Option.some.inj answers
    exact ⟨index, rfl, congrArg Prod.fst both, congrArg Prod.snd both⟩

end Relevance
