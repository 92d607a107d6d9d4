import Relevance.Proofs.Query.InPlace
import Relevance.Proofs.Query.Sloppy

set_option autoImplicit false

namespace Relevance.Phrase

variable {base previous : Int} {start offset slop : UInt32} {starts : List UInt32}
  {rest : List (List UInt32)} {offsets : List UInt32}

theorem Spread.foldl_include (starts : List Int) (spread : Spread) :
    starts.foldl Spread.include spread =
      ⟨starts.foldl min spread.least, starts.foldl max spread.greatest⟩ := by
  induction starts generalizing spread with
  | nil => rfl
  | cons start rest ih =>
    rw [List.foldl_cons, ih]
    rfl

/-- How far starts lie apart: the largest less the smallest. -/
def HasLength (starts : List Int) (length : Int) : Prop :=
  ∃ least greatest, starts.min? = some least ∧ starts.max? = some greatest ∧
    length = greatest - least

/-- A match length is the length of a choice of positions in the order of the phrase. -/
theorem exists_chosen_of_matchLength (ascending : ∀ positions ∈ rest, positions.Pairwise (· ≤ ·))
    (placed : offsets.length = rest.length) {length : Int}
    (same : matchLength? (start.toNat - offset.toNat) start rest offsets = some length) :
    ∃ chosen, InOrder start.toNat rest chosen ∧
      HasLength (startsOf (start :: chosen) (offset :: offsets)) length := by
  obtain ⟨found, followed, apart⟩ := Option.map_eq_some_iff.mp same
  obtain ⟨chosen, inOrder, spread⟩ := exists_inOrder_of_follow ascending placed followed
  rw [Spread.foldl_include] at spread
  refine ⟨chosen, inOrder, found.least, found.greatest, ?_, ?_, apart.symm⟩
  · rw [startsOf, List.zipWith_cons_cons, List.min?_cons', spread]
    rfl
  · rw [startsOf, List.zipWith_cons_cons, List.max?_cons', spread]
    rfl

def shortLength? (start offset : UInt32) (rest : List (List UInt32)) (offsets : List UInt32)
    (slop : UInt32) : Option UInt32 :=
  match matchLength? (start.toNat - offset.toNat) start rest offsets with
  | some length => if length ≤ slop.toNat then some (.ofNat length.toNat) else none
  | none => none

theorem countedAt_eq_map : countedAt start offset rest offsets slop =
    (shortLength? start offset rest offsets slop).map Similarity.sloppyFreq := by
  unfold countedAt shortLength?
  cases matchLength? (start.toNat - offset.toNat) start rest offsets with
  | none => rfl
  | some length => simp only [Option.map_if]

/-- The match length of a start that counts fits in a word, since the slop does. -/
theorem shortLength?_eq_some (ascending : ∀ positions ∈ rest, positions.Pairwise (· ≤ ·))
    (placed : offsets.length = rest.length) {length : UInt32}
    (counts : shortLength? start offset rest offsets slop = some length) :
    length ≤ slop ∧ ∃ chosen, InOrder start.toNat rest chosen ∧
      HasLength (startsOf (start :: chosen) (offset :: offsets)) length.toNat := by
  unfold shortLength? at counts
  split at counts
  · rename_i distance same
    rw [Option.ite_none_right_eq_some] at counts
    obtain ⟨short, done⟩ := counts
    cases done
    have bounds := matchLength_bounds ascending placed same
    have room := slop.toNat_lt
    have back : (UInt32.ofNat distance.toNat).toNat = distance.toNat := by
      apply UInt32.toNat_ofNat_of_lt
      change distance.toNat < 2 ^ 32
      omega
    constructor
    · rw [UInt32.le_iff_toNat_le, back]
      omega
    · rw [back, Int.toNat_of_nonneg bounds.1]
      exact exists_chosen_of_matchLength ascending placed same
  · cases counts

/-- Items that have a value, each with its own, are some of the items. -/
theorem map_fst_filterMap_sublist {α β : Type} (items : List α) (value? : α → Option β) :
    ((items.filterMap fun item => (value? item).map (item, ·)).map Prod.fst).Sublist items := by
  induction items with
  | nil => exact .slnil
  | cons item rest ih =>
    rw [List.filterMap_cons]
    cases value? item with
    | none => exact ih.cons item
    | some value => exact ih.cons_cons item

/-- The frequency with slop adds up, from the left, what occurrences of different match lengths
count. They start at positions of the first term, each of which is taken at most once and in order,
and each is a choice of positions in the order of the phrase with a match length of at most `slop`.
So a frequency above zero shows that the phrase occurs. -/
theorem sloppyFreq_sums_occurrences (starts : List UInt32) (offset : UInt32)
    (offsets : List UInt32) (slop : UInt32)
    (ascending : ∀ positions ∈ rest, positions.Pairwise (· ≤ ·))
    (placed : offsets.length = rest.length) :
    ∃ counted : List (UInt32 × UInt32),
      sloppyFreq (starts :: rest) (offset :: offsets) slop = .ok ((counted.map fun occurrence =>
        Similarity.sloppyFreq occurrence.2).foldl (· + ·) 0.0) ∧
      (counted.map Prod.fst).Sublist starts ∧
      (∀ start length, (start, length) ∈ counted → length ≤ slop ∧
        ∃ chosen, InOrder start.toNat rest chosen ∧
          HasLength (startsOf (start :: chosen) (offset :: offsets)) length.toNat) ∧
      ∀ found, sloppyFreq (starts :: rest) (offset :: offsets) slop = .ok found → 0.0 < found →
        ∃ start ∈ starts, OccursAt start offset rest offsets slop := by
  refine ⟨starts.filterMap fun start =>
    (shortLength? start offset rest offsets slop).map (start, ·), ?_, ?_, ?_, ?_⟩
  · rw [sloppyFreq_eq_ok, List.map_filterMap]
    simp only [countedAt_eq_map, Option.map_map, Function.comp_def]
  · exact map_fst_filterMap_sublist starts _
  · intro start length member
    obtain ⟨other, -, same⟩ := List.mem_filterMap.mp member
    obtain ⟨short, counts, same⟩ := Option.map_eq_some_iff.mp same
    cases same
    exact shortLength?_eq_some ascending placed counts
  · intro found summed positive
    rw [sloppyFreq_eq_ok, Except.ok.injEq] at summed
    rw [← summed, zero_lt_sum_iff] at positive
    obtain ⟨start, listed, counts⟩ := positive
    exact ⟨start, listed, counts.occursAt ascending placed⟩

/-- Two terms on one place of a phrase: the first start is too far from the second term, and the
last stands behind it. -/
theorem stacked_sums_occurrences :
    (∀ positions ∈ ([[3]] : List (List UInt32)), positions.Pairwise (· ≤ ·)) ∧
    ∃ counted : List (UInt32 × UInt32),
      sloppyFreq [[1, 2, 9], [3]] [0, 0] 1 = .ok ((counted.map fun occurrence =>
        Similarity.sloppyFreq occurrence.2).foldl (· + ·) 0.0) ∧
      (counted.map Prod.fst).Sublist [1, 2, 9] ∧
      (∀ start length, (start, length) ∈ counted → length ≤ 1 ∧
        ∃ chosen, InOrder start.toNat [[3]] chosen ∧
          HasLength (startsOf (start :: chosen) [0, 0]) length.toNat) ∧
      ∃ start ∈ ([1, 2, 9] : List UInt32), OccursAt start 0 [[3]] [0] 1 := by
  have ascending : ∀ positions ∈ ([[3]] : List (List UInt32)), positions.Pairwise (· ≤ ·) := by
    decide
  obtain ⟨counted, summed, starts, each, positive⟩ :=
    sloppyFreq_sums_occurrences [1, 2, 9] 0 [0] 1 ascending rfl
  have half : sloppyFreq [[1, 2, 9], [3]] [0, 0] 1 = .ok 0.5 := by decide +kernel
  have above : (0.0 : Float32) < 0.5 := by decide +kernel
  exact ⟨ascending, counted, summed, starts, each, positive 0.5 half above⟩

/-- A position in its place is the nearest one. -/
theorem nearestPosition_of_place {positions : List UInt32} (ascending : positions.Pairwise (· ≤ ·))
    {place : Int} (after : previous < place)
    (stands : ∃ position ∈ positions, (position.toNat : Int) = place) :
    nearestPosition positions previous place = some place := by
  obtain ⟨position, listed, same⟩ := stands
  have nearest := nearestPosition_spec ascending previous place
  cases reached : nearestPosition positions previous place with
  | none =>
    rw [reached] at nearest
    have before := nearest position listed
    omega
  | some taken =>
    rw [reached] at nearest
    have closer := nearest.nearest position listed (by omega)
    have zero : taken = place := by omega
    rw [zero]

/-- If all terms stand in their places, and each place lies behind the one before, no other
positions are taken. -/
theorem follow_of_standsFrom (ascending : ∀ positions ∈ rest, positions.Pairwise (· ≤ ·))
    (stands : StandsFrom base rest offsets) (increasing : offsets.Pairwise (· < ·))
    (later : ∀ place ∈ offsets, previous < base + place.toNat) :
    follow base previous ⟨base, base⟩ rest offsets = some ⟨base, base⟩ := by
  unfold StandsFrom at stands
  -- The spread stays at `base`, and what was taken last stays before all places still to come.
  induction stands generalizing previous with
  | nil => rfl
  | @cons positions place rest offsets first _ ih =>
    rw [List.forall_mem_cons] at ascending later
    rw [List.pairwise_cons] at increasing
    have taken := nearestPosition_of_place ascending.1 later.1 first
    have same : base + place.toNat - place.toNat = base := by omega
    have spread : Spread.include ⟨base, base⟩ (base + place.toNat - place.toNat) = ⟨base, base⟩ := by
      simp only [Spread.include, same, Int.min_self, Int.max_self]
    rw [follow, taken]
    simp only [spread]
    apply ih ascending.2 increasing.2
    intro further member
    have behind := UInt32.lt_iff_toNat_lt.mp (increasing.1 further member)
    omega

/-- A choice of positions that all stand for one start has every term in its place. -/
theorem InOrder.standsFrom {chosen : List UInt32} (inOrder : InOrder previous rest chosen)
    (placed : offsets.length = rest.length) (same : ∀ one ∈ startsOf chosen offsets, one = base) :
    StandsFrom base rest offsets := by
  induction inOrder generalizing offsets with
  | nil =>
    cases List.length_eq_zero_iff.mp placed
    exact .nil
  | @cons _ positions _ position _ listed _ _ ih =>
    cases offsets with
    | nil => cases placed
    | cons place offsets =>
      rw [startsOf, List.zipWith_cons_cons, List.forall_mem_cons] at same
      have first : ∃ position ∈ positions, (position.toNat : Int) = base + place.toNat :=
        ⟨position, listed, by omega⟩
      exact .cons first (ih (Nat.succ.inj placed) same.2)

/-- With no slop allowed, a start counts exactly if all terms stand in their places, provided that
these follow one behind the other. -/
theorem countsAt_zero_iff (ascending : ∀ positions ∈ rest, positions.Pairwise (· ≤ ·))
    (placed : offsets.length = rest.length) (increasing : (offset :: offsets).Pairwise (· < ·)) :
    CountsAt start offset rest offsets 0 ↔ StandsFrom (start.toNat - offset.toNat) rest offsets := by
  rw [List.pairwise_cons] at increasing
  constructor
  · intro counts
    obtain ⟨chosen, inOrder, near⟩ := counts.occursAt ascending placed
    rw [startsOf, List.zipWith_cons_cons, ← startsOf] at near
    apply inOrder.standsFrom placed
    intro one member
    have ahead := near one (List.mem_cons_of_mem _ member) _ List.mem_cons_self
    have behind := near _ List.mem_cons_self one (List.mem_cons_of_mem _ member)
    rw [UInt32.toNat_zero] at ahead behind
    omega
  · intro stands
    have later : ∀ place ∈ offsets,
        (start.toNat : Int) < start.toNat - offset.toNat + place.toNat := by
      intro place member
      have behind := UInt32.lt_iff_toNat_lt.mp (increasing.1 place member)
      omega
    have followed := follow_of_standsFrom ascending stands increasing.2 later
    exact countsAt_iff.mpr ⟨_, followed, by simp⟩

/-- With no slop allowed, a start that counts counts one. -/
theorem countedAt_zero (ascending : ∀ positions ∈ rest, positions.Pairwise (· ≤ ·))
    (placed : offsets.length = rest.length) :
    countedAt start offset rest offsets 0 =
      if (countedAt start offset rest offsets 0).isSome then some 1.0 else none := by
  unfold countedAt
  cases same : matchLength? (start.toNat - offset.toNat) start rest offsets with
  | none => rfl
  | some length =>
    have bounds := matchLength_bounds ascending placed same
    by_cases short : length ≤ (0 : UInt32).toNat
    · obtain rfl : length = 0 := by
        rw [UInt32.toNat_zero] at short
        omega
      have one : Similarity.sloppyFreq (.ofNat (0 : Int).toNat) = 1.0 := Single.sloppyFreq_zero
      simp only [if_pos short, one, Option.isSome_some, if_true]
    · simp only [if_neg short, Option.isSome_none, Bool.false_eq_true, if_false]

/-- The frequency without slop, as the sum that frequencies with slop are. -/
theorem exactFreq_eq_ok_of_increasing (ascending : ∀ positions ∈ rest, positions.Pairwise (· ≤ ·))
    (placed : offsets.length = rest.length) (increasing : (offset :: offsets).Pairwise (· < ·))
    (fit : PlacesFit (starts :: rest) (offset :: offsets)) :
    exactFreq (starts :: rest) (offset :: offsets) = .ok ((starts.filterMap fun start =>
      countedAt start offset rest offsets 0).foldl (· + ·) 0.0) := by
  rw [exactFreq_eq_ok]
  congr 2
  apply List.filterMap_congr
  intro start listed
  rw [countedAt_zero ascending placed]
  have counts : allInPlace (start.toNat - offset.toNat) rest offsets = true ↔
      (countedAt start offset rest offsets 0).isSome = true := by
    rw [isSome_countedAt_iff, countsAt_zero_iff ascending placed increasing]
    exact allInPlace_iff_standsFrom ascending placed fit listed
  rw [Bool.eq_iff_iff.mpr counts]

/-- Looking for each term in its place comes to the same as taking the nearest positions with no
slop allowed, if the terms of the phrase stand one behind the other and all places are positions. -/
theorem exactFreq_eq_sloppyFreq {positions : List (List UInt32)}
    (ascending : ∀ list ∈ positions, list.Pairwise (· ≤ ·))
    (placed : offsets.length = positions.length) (increasing : offsets.Pairwise (· < ·))
    (fit : PlacesFit positions offsets) :
    exactFreq positions offsets = sloppyFreq positions offsets 0 := by
  cases positions with
  | nil => rfl
  | cons starts rest =>
    cases offsets with
    | nil => cases placed
    | cons offset offsets =>
      rw [List.forall_mem_cons] at ascending
      rw [exactFreq_eq_ok_of_increasing ascending.2 (Nat.succ.inj placed) increasing fit,
        sloppyFreq_eq_ok]

/-- A phrase with a gap, in a text that has two of its words once more nearby. -/
theorem gap_counted_alike :
    (∀ list ∈ ([[1, 4], [2, 3, 5], [4, 7, 8]] : List (List UInt32)), list.Pairwise (· ≤ ·)) ∧
    ([2, 3, 5] : List UInt32).Pairwise (· < ·) ∧
    PlacesFit [[1, 4], [2, 3, 5], [4, 7, 8]] [2, 3, 5] ∧
    exactFreq [[1, 4], [2, 3, 5], [4, 7, 8]] [2, 3, 5] =
      sloppyFreq [[1, 4], [2, 3, 5], [4, 7, 8]] [2, 3, 5] 0 := by
  have ascending : ∀ list ∈ ([[1, 4], [2, 3, 5], [4, 7, 8]] : List (List UInt32)),
      list.Pairwise (· ≤ ·) := by decide
  have increasing : ([2, 3, 5] : List UInt32).Pairwise (· < ·) := by decide
  have fit : PlacesFit [[1, 4], [2, 3, 5], [4, 7, 8]] [2, 3, 5] := by simp [PlacesFit]
  exact ⟨ascending, increasing, fit, exactFreq_eq_sloppyFreq ascending rfl increasing fit⟩

end Relevance.Phrase
