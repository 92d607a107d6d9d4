import Relevance.Proofs.Index.Moving
import Relevance.Proofs.Query.Alike
import Relevance.Proofs.Query.Nearest
import Relevance.Proofs.Query.Slop

set_option autoImplicit false

namespace Relevance

namespace Phrase

section
variable {amount : Int} {positions moved : List UInt32}

/-- As many moved positions lie below a moved bound. -/
theorem countBelow_shifted (ascending : positions.Pairwise (· ≤ ·))
    (shifted : Shifted amount positions moved) (bound : Int) :
    countBelow moved (bound + amount) = countBelow positions bound := by
  have length_eq := List.Forall₂.length_eq shifted
  have each : ∀ i, i < positions.length →
      (i < countBelow moved (bound + amount) ↔ i < countBelow positions bound) := by
    intro i inside
    have within : i < moved.length := by omega
    have placed := shifted.getElem inside within
    rw [lt_countBelow_iff (shifted.ascending ascending) _ within,
      lt_countBelow_iff ascending _ inside, getD_eq_getElem inside, getD_eq_getElem within]
    omega
  have short := countBelow_le positions bound
  have other := countBelow_le moved (bound + amount)
  rcases Nat.lt_trichotomy (countBelow moved (bound + amount)) (countBelow positions bound) with
    fewer | same | more
  · exact absurd ((each _ (by omega)).mpr fewer) (Nat.lt_irrefl _)
  · exact same
  · exact absurd ((each _ (by omega)).mp more) (Nat.lt_irrefl _)

theorem map_getElem?_shifted (shifted : Shifted amount positions moved) (i : Nat) :
    (moved[i]?.map fun p => (p.toNat : Int)) =
      (positions[i]?.map fun p => (p.toNat : Int)).map (· + amount) := by
  have length_eq := List.Forall₂.length_eq shifted
  by_cases inside : i < positions.length
  · have within : i < moved.length := by omega
    rw [List.getElem?_eq_getElem inside, List.getElem?_eq_getElem within, Option.map_some,
      Option.map_some, Option.map_some, shifted.getElem inside within]
  · rw [List.getElem?_eq_none (by omega), List.getElem?_eq_none (by omega)]
    rfl

/-- The moved position nearest to a moved target is the nearest one, moved. -/
theorem nearestPosition_shifted (ascending : positions.Pairwise (· ≤ ·))
    (shifted : Shifted amount positions moved) (previous target : Int) :
    nearestPosition moved (previous + amount) (target + amount) =
      (nearestPosition positions previous target).map (· + amount) := by
  have bound : max (target + amount) (previous + amount + 1) =
      max target (previous + 1) + amount := by omega
  have later : ∀ p : Option Int, (p.map (· + amount)).filter (previous + amount < ·) =
      (p.filter (previous < ·)).map (· + amount) := by
    intro p
    cases p with
    | none => rfl
    | some p => by_cases after : previous < p <;> simp [Option.filter_some, after]
  unfold nearestPosition
  simp only [bound, countBelow_shifted ascending shifted, map_getElem?_shifted shifted, later]
  generalize countBelow positions (max target (previous + 1)) = index
  have merged : (if index = 0 then none else
      (((positions[index - 1]?.map fun p => (p.toNat : Int)).filter (previous < ·)).map
        (· + amount))) =
      (if index = 0 then none else
        (positions[index - 1]?.map fun p => (p.toNat : Int)).filter (previous < ·)).map
        (· + amount) := by
    split <;> rfl
  rw [merged]
  generalize (if index = 0 then none else _) = before
  generalize (positions[index]?.map fun p => (p.toNat : Int)) = after
  cases before with
  | none => cases after <;> rfl
  | some before =>
    cases after with
    | none => rfl
    | some after =>
      have same : target + amount - (before + amount) ≤ after + amount - (target + amount) ↔
          target - before ≤ after - target := by omega
      simp only [Option.map_some, same]
      split <;> rfl

/-- A place is found if it is that of a position, after any number of rounds. -/
theorem place_iff (ascending : positions.Pairwise (· ≤ ·)) (place : Int) :
    (decide (0 ≤ place) && isMember positions (.ofNat place.toNat)) = true ↔
      ∃ i, ∃ inside : i < positions.length, ∃ rounds : Nat,
        place = positions[i].toNat + rounds * 2 ^ 32 := by
  rw [Bool.and_eq_true, decide_eq_true_eq, isMember_iff ascending]
  constructor
  · rintro ⟨above, member⟩
    obtain ⟨i, inside, same⟩ := List.mem_iff_getElem.mp member
    refine ⟨i, inside, place.toNat / 2 ^ 32, ?_⟩
    have room : positions[i].toNat = place.toNat % 2 ^ 32 := by
      rw [same, UInt32.toNat_ofNat']
    omega
  · rintro ⟨i, inside, rounds, same⟩
    refine ⟨by omega, ?_⟩
    have back : UInt32.ofNat place.toNat = positions[i] := by
      rw [← UInt32.toNat_inj, UInt32.toNat_ofNat']
      have fits := positions[i].toNat_lt
      omega
    rw [back]
    exact List.getElem_mem inside

/-- A moved place is found among moved positions if the place is found. Either may lie below the
first or beyond the last position of 32 bits where the other does not, but not on a position. -/
theorem place_shifted (ascending : positions.Pairwise (· ≤ ·))
    (shifted : Shifted amount positions moved) (place : Int) :
    (decide (0 ≤ place + amount) && isMember moved (.ofNat (place + amount).toNat)) =
      (decide (0 ≤ place) && isMember positions (.ofNat place.toNat)) := by
  have length_eq := List.Forall₂.length_eq shifted
  rw [Bool.eq_iff_iff, place_iff (shifted.ascending ascending), place_iff ascending]
  constructor
  · rintro ⟨i, within, rounds, same⟩
    have inside : i < positions.length := by omega
    have placed := shifted.getElem inside within
    exact ⟨i, inside, rounds, by omega⟩
  · rintro ⟨i, inside, rounds, same⟩
    have within : i < moved.length := by omega
    have placed := shifted.getElem inside within
    exact ⟨i, within, rounds, by omega⟩

/-- Counting moved starts counts the starts, if each counts the same. -/
theorem countStarts_shifted (shifted : Shifted amount positions moved)
    {contribution twin : UInt32 → Except Fault (Option Float32)}
    (each : ∀ start other : UInt32, (other.toNat : Int) = start.toNat + amount →
      twin other = contribution start) :
    countStarts moved twin = countStarts positions contribution := by
  unfold countStarts
  generalize (0.0 : Float32) = sum
  induction shifted generalizing sum with
  | nil => rfl
  | cons first _ ih => simp only [List.foldlM_cons, each _ _ first, ih]

end

section
variable {k m : Int} {positions moved : List (List UInt32)} {offsets others : List UInt32}

theorem allInPlace_shifted (ascending : ∀ list ∈ positions, list.Pairwise (· ≤ ·))
    (shifted : List.Forall₂ (Shifted k) positions moved) (displaced : Shifted m offsets others)
    (base : Int) : allInPlace (base + k - m) moved others = allInPlace base positions offsets := by
  induction shifted generalizing offsets others with
  | nil => cases displaced <;> rfl
  | cons first _ ih =>
    cases displaced with
    | nil => rfl
    | @cons offset other _ _ same later =>
      rw [List.forall_mem_cons] at ascending
      have place : base + k - m + other.toNat = base + offset.toNat + k := by omega
      simp only [allInPlace, place, place_shifted ascending.1 first, ih ascending.2 later]

/-- A span of starts that are moved by an amount. -/
def Spread.move (amount : Int) (spread : Spread) : Spread :=
  ⟨spread.least + amount, spread.greatest + amount⟩

theorem Spread.include_move (amount : Int) (spread : Spread) (start : Int) :
    (spread.move amount).include (start + amount) = (spread.include start).move amount := by
  simp only [Spread.include, Spread.move, Spread.mk.injEq]
  omega

theorem follow_shifted (ascending : ∀ list ∈ positions, list.Pairwise (· ≤ ·))
    (shifted : List.Forall₂ (Shifted k) positions moved) (displaced : Shifted m offsets others)
    (base previous : Int) (spread : Spread) :
    follow (base + k - m) (previous + k) (spread.move (k - m)) moved others =
      (follow base previous spread positions offsets).map (Spread.move (k - m)) := by
  induction shifted generalizing offsets others previous spread with
  | nil => cases displaced <;> rfl
  | cons first _ ih =>
    cases displaced with
    | nil => rfl
    | @cons offset other _ _ same later =>
      rw [List.forall_mem_cons] at ascending
      have target : base + k - m + other.toNat = base + offset.toNat + k := by omega
      rw [follow, follow, target, nearestPosition_shifted ascending.1 first]
      cases nearestPosition _ previous (base + offset.toNat) with
      | none => rfl
      | some position =>
        have start : position + k - other.toNat = position - offset.toNat + (k - m) := by omega
        simp only [Option.map_some, start, Spread.include_move]
        exact ih ascending.2 later position (spread.include (position - offset.toNat))

theorem matchLength?_shifted (ascending : ∀ list ∈ positions, list.Pairwise (· ≤ ·))
    (shifted : List.Forall₂ (Shifted k) positions moved) (displaced : Shifted m offsets others)
    (base : Int) {start other : UInt32} (same : (other.toNat : Int) = start.toNat + k) :
    matchLength? (base + k - m) other moved others =
      matchLength? base start positions offsets := by
  have spread : (⟨base + k - m, base + k - m⟩ : Spread) = Spread.move (k - m) ⟨base, base⟩ := by
    simp only [Spread.move, Spread.mk.injEq]
    omega
  rw [matchLength?, matchLength?, same, spread, follow_shifted ascending shifted displaced,
    Option.map_map]
  refine Option.map_congr fun found _ => ?_
  simp only [Function.comp_apply, Spread.move]
  omega

theorem any_isEmpty_shifted (shifted : List.Forall₂ (Shifted k) positions moved) :
    moved.any List.isEmpty = positions.any List.isEmpty := by
  induction shifted with
  | nil => rfl
  | cons first _ ih =>
    rw [List.any_cons, List.any_cons, ih]
    cases first <;> rfl

theorem exactFreq_shifted (ascending : ∀ list ∈ positions, list.Pairwise (· ≤ ·))
    (shifted : List.Forall₂ (Shifted k) positions moved) (displaced : Shifted m offsets others) :
    exactFreq moved others = exactFreq positions offsets := by
  cases shifted with
  | nil => rfl
  | cons first later =>
    rw [List.forall_mem_cons] at ascending
    refine countStarts_shifted first fun start other same => ?_
    cases displaced with
    | nil => rfl
    | @cons offset next _ _ place further =>
      have base : (other.toNat : Int) - next.toNat = start.toNat - offset.toNat + k - m := by omega
      simp only [baseOf_cons, base, Fault.ok_bind, List.tail_cons,
        allInPlace_shifted ascending.2 later further]
      rfl

theorem sloppyFreq_shifted (ascending : ∀ list ∈ positions, list.Pairwise (· ≤ ·))
    (shifted : List.Forall₂ (Shifted k) positions moved) (displaced : Shifted m offsets others)
    (slop : UInt32) : sloppyFreq moved others slop = sloppyFreq positions offsets slop := by
  cases shifted with
  | nil => rfl
  | cons first later =>
    rw [List.forall_mem_cons] at ascending
    refine countStarts_shifted first fun start other same => ?_
    cases displaced with
    | nil => rfl
    | @cons offset next _ _ place further =>
      have base : (other.toNat : Int) - next.toNat = start.toNat - offset.toNat + k - m := by omega
      simp only [baseOf_cons, base, Fault.ok_bind, List.tail_cons,
        matchLength?_shifted ascending.2 later further _ same]

/-- Moved positions and moved offsets have the frequency of those that they were before. -/
theorem freq_shifted (ascending : ∀ list ∈ positions, list.Pairwise (· ≤ ·))
    (shifted : List.Forall₂ (Shifted k) positions moved) (displaced : Shifted m offsets others)
    (slop : UInt32) : freq moved others slop = freq positions offsets slop := by
  simp only [freq, any_isEmpty_shifted shifted, exactFreq_shifted ascending shifted displaced,
    sloppyFreq_shifted ascending shifted displaced]

end

end Phrase

/-- The same query, but for the tokens of each phrase, which are moved by an amount. -/
inductive Query.Moved : Query → Query → Prop
  | matchNone : Moved .matchNone .matchNone
  | term (field : String) (wanted : Term) (boost : Float32) :
    Moved (.term field wanted boost) (.term field wanted boost)
  | phrase {amount : Int} {tokens others : List Token} (field : String) (slop : UInt32)
    (boost : Float32) (moved : List.Forall₂ (Token.Moved amount) tokens others) :
    Moved (.phrase field tokens slop boost) (.phrase field others slop boost)
  | conjunction {queries others : List Query} (parts : List.Forall₂ Moved queries others) :
    Moved (.conjunction queries) (.conjunction others)
  | disjunction {queries others : List Query} (parts : List.Forall₂ Moved queries others) :
    Moved (.disjunction queries) (.disjunction others)

section
variable {amount : Int} {tokens others : List Token}

theorem shifted_map_position (moved : List.Forall₂ (Token.Moved amount) tokens others) :
    Shifted amount (tokens.map Token.position) (others.map Token.position) := by
  rw [Shifted, List.forall₂_map_left_iff, List.forall₂_map_right_iff]
  exact moved.imp fun _ _ same => same.position_eq

/-- The first position of moved tokens is the first one, moved. -/
theorem firstPosition_of_moved (moved : List.Forall₂ (Token.Moved amount) tokens others)
    {first : UInt32} (least : firstPosition? tokens = some first) :
    ∃ start, firstPosition? others = some start ∧ (start.toNat : Int) = first.toNat + amount := by
  have shifted := shifted_map_position moved
  have length_eq := List.Forall₂.length_eq shifted
  unfold firstPosition? at least ⊢
  generalize tokens.map Token.position = positions at least shifted length_eq
  generalize others.map Token.position = places at shifted length_eq ⊢
  rw [List.min?_eq_some_iff] at least
  obtain ⟨member, below⟩ := least
  obtain ⟨i, inside, rfl⟩ := List.mem_iff_getElem.mp member
  have within : i < places.length := by omega
  have placed := shifted.getElem inside within
  refine ⟨places[i], List.min?_eq_some_iff.mpr ⟨List.getElem_mem within, ?_⟩, placed⟩
  intro place listed
  obtain ⟨j, after, rfl⟩ := List.mem_iff_getElem.mp listed
  have before : j < positions.length := by omega
  have other := shifted.getElem before after
  have order : positions[i].toNat ≤ positions[j].toNat := below _ (List.getElem_mem before)
  rw [UInt32.le_iff_toNat_le]
  omega

/-- A phrase looks for the same wherever its tokens begin. -/
theorem Matcher.ofTokens?_moved (moved : List.Forall₂ (Token.Moved amount) tokens others)
    (slop : UInt32) : Matcher.ofTokens? others slop = Matcher.ofTokens? tokens slop := by
  rw [ofTokens?_eq_ok, ofTokens?_eq_ok]
  cases least : firstPosition? tokens with
  | none =>
    cases firstPosition_eq_none_iff.mp least
    cases moved
    rfl
  | some first =>
    obtain ⟨start, started, placed⟩ := firstPosition_of_moved moved least
    have offsets : others.map (·.position - start) = tokens.map (·.position - first) := by
      clear least started
      induction moved with
      | nil => rfl
      | @cons token other _ _ same _ ih =>
        have behind : other.position - start = token.position - first := by
          have position := same.position_eq
          rw [← UInt32.toNat_inj, UInt32.toNat_sub, UInt32.toNat_sub]
          have fits := first.toNat_lt
          have room := start.toNat_lt
          omega
        rw [List.map_cons, List.map_cons, behind, ih]
    rw [started, Option.map_some, Option.map_some, Matcher.ofPhrase, Matcher.ofPhrase, offsets,
      map_term_of_moved moved]

theorem Query.text_moved (moved : List.Forall₂ (Token.Moved amount) tokens others)
    (field : String) (slop : UInt32) (boost : Float32) :
    text (.phrase field others slop boost) = text (.phrase field tokens slop boost) := by
  have words : others.map (·.term.display) = tokens.map (·.term.display) := by
    have terms := congrArg (List.map Term.display) (map_term_of_moved moved)
    simpa only [List.map_map, Function.comp_def] using terms
  rw [text, text, words]

end

variable {index : Index} {similarity : Similarity}

theorem Plan.ofQueries_congr {queries others : List Query}
    (each : List.Forall₂ (fun query other =>
      ofQuery index similarity other = ofQuery index similarity query) queries others) :
    ofQueries index similarity others = ofQueries index similarity queries := by
  induction each with
  | nil => rfl
  | cons first _ ih => rw [ofQueries, ofQueries, first, ih]

/-- A query is bound in the same way wherever the tokens of its phrases begin. -/
theorem Query.Moved.ofQuery_eq {query other : Query} (moved : query.Moved other) :
    Plan.ofQuery index similarity other = Plan.ofQuery index similarity query := by
  induction query generalizing other with
  | matchNone =>
    cases moved
    rfl
  | term field wanted boost =>
    cases moved
    rfl
  | phrase field tokens slop boost =>
    cases moved with
    | phrase _ _ _ shifted =>
      simp only [Plan.ofQuery, Matcher.ofTokens?_moved shifted, Query.text_moved shifted]
  | conjunction queries ih =>
    cases moved with
    | conjunction parts =>
      rw [Plan.ofQuery, Plan.ofQuery, Plan.ofQueries_congr
        (Plan.forall₂_of_mem parts fun query member _ moved => ih query member moved)]
  | disjunction queries ih =>
    cases moved with
    | disjunction parts =>
      rw [Plan.ofQuery, Plan.ofQuery, Plan.ofQueries_congr
        (Plan.forall₂_of_mem parts fun query member _ moved => ih query member moved)]

namespace Index

variable {other : Index}

/-- Queries weigh the same where tokens are moved. -/
theorem Moved.sameWeights (moved : index.Moved other) : index.SameWeights other where
  schema_eq := moved.schema_eq
  termStatistics_eq := moved.termStatistics_eq
  effectiveDocCount_eq field := by rw [moved.fieldStatistics_eq]

/-- A clause stands in a document as often wherever the tokens of the document begin. -/
theorem Moved.freq_eq (moved : index.Moved other) (sound : index.Sound) (clause : Clause)
    (doc : DocId) : clause.freq other doc = clause.freq index doc := by
  obtain ⟨amount, shifted⟩ := moved.exists_shifted doc clause.field
  unfold Clause.freq
  cases clause.matcher with
  | term wanted => simp only [List.Forall₂.length_eq (shifted wanted)]
  | phrase terms offsets slop =>
    have ascending : ∀ list ∈ terms.map (index.positions doc clause.field),
        list.Pairwise (· ≤ ·) := by
      intro list member
      obtain ⟨term, -, rfl⟩ := List.mem_map.mp member
      exact sound.positions_ascending doc clause.field term
    have pairs : List.Forall₂ (Shifted amount) (terms.map (index.positions doc clause.field))
        (terms.map (other.positions doc clause.field)) := by
      rw [List.forall₂_map_left_iff, List.forall₂_map_right_iff, List.forall₂_same]
      exact fun term _ => shifted term
    have still : Shifted 0 offsets offsets :=
      List.forall₂_same.mpr fun offset _ => (Int.add_zero _).symm
    exact Phrase.freq_shifted ascending pairs still slop

/-- A plan gives every document the score that it had before tokens were moved. -/
theorem Moved.score_eq (moved : index.Moved other) (sound : index.Sound) (plan : Plan)
    (doc : DocId) : plan.score other similarity doc = plan.score index similarity doc := by
  induction plan with
  | matchNone => rfl
  | leaf clause =>
    rw [Plan.score, Plan.score, Clause.score, Clause.score, moved.freq_eq sound, Clause.scorer,
      Clause.scorer, moved.norms_eq]
  | conjunction plans ih => rw [Plan.score, Plan.score, Alike.scoreAll_eq ih]
  | disjunction plans ih => rw [Plan.score, Plan.score, Alike.scoreAny_eq ih]

/-- Where positions begin is of no account. A phrase has the same frequency if all positions are
moved by one amount and all offsets by another. If all tokens of each field of each document are
moved, and all tokens of each phrase, then every clause stands in every document as often as before,
and every query is bound in the same way and gives every document the same score or none. -/
theorem only_relative_positions_count :
    (∀ (k m : Int) (positions moved : List (List UInt32)) (offsets others : List UInt32)
        (slop : UInt32), (∀ list ∈ positions, list.Pairwise (· ≤ ·)) →
      List.Forall₂ (Shifted k) positions moved → Shifted m offsets others →
      Phrase.freq moved others slop = Phrase.freq positions offsets slop) ∧
    ∀ (weighed : Similarity) (operations others : List Operation) (left : Index),
      List.Forall₂ Operation.Moved operations others → run weighed operations = .ok left →
      ∃ right, run weighed others = .ok right ∧
        (∀ (clause : Clause) (doc : DocId), clause.freq right doc = clause.freq left doc) ∧
        ∀ (similarity : Similarity) (query other : Query), query.Moved other →
          right.plan similarity other = left.plan similarity query ∧
          ∀ doc, right.score similarity other doc = left.score similarity query doc := by
  constructor
  · intro k m positions moved offsets others slop ascending shifted displaced
    exact Phrase.freq_shifted ascending shifted displaced slop
  · intro weighed operations others left pairs reached
    obtain ⟨right, twinned, moved⟩ := exists_run_of_moved pairs reached
    have sound : left.Sound := sound_of_run reached
    refine ⟨right, twinned, moved.freq_eq sound, fun similarity query other shifted => ?_⟩
    have planned : right.plan similarity other = left.plan similarity query := by
      rw [← moved.sameWeights.plan_eq, Index.plan, Index.plan, shifted.ofQuery_eq]
    refine ⟨planned, fun doc => ?_⟩
    rw [Index.score, Index.score, planned]
    cases left.plan similarity query with
    | error reason => rfl
    | ok plan => exact moved.score_eq sound plan doc

/-- The shelf with its tokens moved, one document's to the end of the range. -/
def movedShelf : List Operation := [
  .addField ⟨"title", .text, ⟨true, true, false⟩⟩,
  .insert ((Document.ofKey "a").withTokens 0 [⟨.ofString "red", 7⟩, ⟨.ofString "fox", 8⟩]),
  .insert ((Document.ofKey "b").withTokens 0 [⟨.ofString "fox", 0⟩]),
  .insert ((Document.ofKey "b").withTokens 0
    [⟨.ofString "red", 4294967291⟩, ⟨.ofString "hen", 4294967295⟩]),
  .erase "a"]

theorem moved_movedShelf : List.Forall₂ Operation.Moved shelf movedShelf :=
  .cons (.addField _) (.cons
    (.insert ⟨rfl, rfl, .cons ⟨rfl, 7, .cons ⟨rfl, rfl⟩ (.cons ⟨rfl, rfl⟩ .nil)⟩ .nil⟩) (.cons
    (.insert ⟨rfl, rfl, .cons ⟨rfl, 0, .cons ⟨rfl, rfl⟩ .nil⟩ .nil⟩) (.cons
    (.insert ⟨rfl, rfl, .cons
      ⟨rfl, 4294967291, .cons ⟨rfl, rfl⟩ (.cons ⟨rfl, rfl⟩ .nil)⟩ .nil⟩) (.cons
    (.erase "a") .nil))))

/-- The query for the shelf, with the phrase in it moved to the front. -/
def movedQuery : Query := .disjunction [
  .ofTerm "title" (.ofString "fox"),
  .conjunction [
    .ofTerm "title" (.ofString "red"),
    .phrase "title" [⟨.ofString "red", 0⟩, ⟨.ofString "hen", 4⟩] 0 2.0]]

theorem moved_movedQuery : shelfQuery.Moved movedQuery :=
  .disjunction (.cons (.term _ _ _) (.cons (.conjunction (.cons (.term _ _ _) (.cons
    (@Query.Moved.phrase (-2) _ _ _ _ _ (.cons ⟨rfl, rfl⟩ (.cons ⟨rfl, rfl⟩ .nil))) .nil))) .nil))

theorem movedShelf_only_relative_positions_count :
    Phrase.freq [[0, 5], [1]] [4294967294, 4294967295] 1 = Phrase.freq [[4, 9], [5]] [0, 1] 1 ∧
    ∃ left right, run .smoothed shelf = .ok left ∧ run .smoothed movedShelf = .ok right ∧
      ∀ doc, right.score .classic movedQuery doc = left.score .classic shelfQuery doc := by
  constructor
  · refine only_relative_positions_count.1 (-4) 4294967294 [[4, 9], [5]] _ [0, 1] _ 1 ?_ ?_ ?_
    · decide
    · exact .cons (.cons rfl (.cons rfl .nil)) (.cons (.cons rfl .nil) .nil)
    · exact .cons rfl (.cons rfl .nil)
  · obtain ⟨left, reached, -⟩ := exists_run_shelf
    obtain ⟨right, twinned, -, same⟩ :=
      only_relative_positions_count.2 .smoothed shelf movedShelf left moved_movedShelf reached
    exact ⟨left, right, reached, twinned, (same .classic shelfQuery movedQuery moved_movedQuery).2⟩

end Index

end Relevance
