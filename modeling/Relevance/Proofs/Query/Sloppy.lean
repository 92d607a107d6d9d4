import Relevance.Proofs.Numeric.Reciprocal
import Relevance.Proofs.Query.Nearest

/-
Among the occurrences of a phrase that start at one position, only the one is looked at that takes
for each term the position nearest to its place. It is an occurrence, and it is within the slop
whenever some occurrence is, provided that no place lies ahead of where its term may stand: then the
nearest position is always the first one. Where a place lies ahead, a term may be passed over that a
later one needed.
-/

set_option autoImplicit false

namespace Relevance.Phrase

/-- One position for each further term, in the order of the phrase. -/
inductive InOrder : Int → List (List UInt32) → List UInt32 → Prop
  | nil (previous : Int) : InOrder previous [] []
  | cons {previous : Int} {positions : List UInt32} {rest : List (List UInt32)} {position : UInt32}
    {others : List UInt32} (listed : position ∈ positions) (after : previous < position.toNat)
    (further : InOrder position.toNat rest others) :
    InOrder previous (positions :: rest) (position :: others)

theorem InOrder.ne_nil {previous : Int} {rest : List (List UInt32)} {chosen : List UInt32}
    (inOrder : InOrder previous rest chosen) : ∀ positions ∈ rest, positions ≠ [] := by
  induction inOrder with
  | nil => exact nofun
  | cons listed _ _ ih => exact List.forall_mem_cons.mpr ⟨List.ne_nil_of_mem listed, ih⟩

/-- Where the phrase would start with each term in its place. -/
def startsOf (chosen offsets : List UInt32) : List Int :=
  List.zipWith (fun position offset => (position.toNat : Int) - offset.toNat) chosen offsets

/-- Some choice of positions makes an occurrence that starts at a position of the first term and has
a match length of at most `slop`: none of the starts that its terms stand for lies further than that
from another. -/
def OccursAt (start offset : UInt32) (rest : List (List UInt32)) (offsets : List UInt32)
    (slop : UInt32) : Prop :=
  ∃ chosen, InOrder start.toNat rest chosen ∧
    ∀ one ∈ startsOf (start :: chosen) (offset :: offsets),
      ∀ other ∈ startsOf (start :: chosen) (offset :: offsets), one - other ≤ slop.toNat

def CountsAt (start offset : UInt32) (rest : List (List UInt32)) (offsets : List UInt32)
    (slop : UInt32) : Prop :=
  ∃ length, matchLength? (start.toNat - offset.toNat) start rest offsets = some length ∧
    length ≤ slop.toNat

namespace Spread

theorem le_least_iff (starts : List Int) (spread : Spread) (low : Int) :
    low ≤ (starts.foldl Spread.include spread).least ↔
      low ≤ spread.least ∧ ∀ start ∈ starts, low ≤ start := by
  induction starts generalizing spread with
  | nil => simp
  | cons start rest ih =>
    rw [List.foldl_cons, ih, List.forall_mem_cons, Spread.include, Int.le_min, and_assoc]

theorem greatest_le_iff (starts : List Int) (spread : Spread) (high : Int) :
    (starts.foldl Spread.include spread).greatest ≤ high ↔
      spread.greatest ≤ high ∧ ∀ start ∈ starts, start ≤ high := by
  induction starts generalizing spread with
  | nil => simp
  | cons start rest ih =>
    rw [List.foldl_cons, ih, List.forall_mem_cons, Spread.include, Int.max_le, and_assoc]

end Spread

variable {base previous : Int} {rest : List (List UInt32)} {offsets : List UInt32}

/-- What is followed is an occurrence. -/
theorem exists_inOrder_of_follow (ascending : ∀ positions ∈ rest, positions.Pairwise (· ≤ ·))
    (placed : offsets.length = rest.length) {spread found : Spread}
    (followed : follow base previous spread rest offsets = some found) :
    ∃ chosen, InOrder previous rest chosen ∧
      found = (startsOf chosen offsets).foldl Spread.include spread := by
  induction rest generalizing previous spread offsets with
  | nil =>
    cases offsets with
    | nil =>
      cases followed
      exact ⟨[], .nil previous, rfl⟩
    | cons => cases placed
  | cons positions rest ih =>
    cases offsets with
    | nil => cases placed
    | cons offset offsets =>
      rw [List.forall_mem_cons] at ascending
      have nearest := nearestPosition_spec ascending.1 previous (base + offset.toNat)
      rw [follow] at followed
      cases chosen : nearestPosition positions previous (base + offset.toNat) with
      | none =>
        rw [chosen] at followed
        cases followed
      | some position =>
        rw [chosen] at followed nearest
        obtain ⟨p, listed, rfl⟩ := nearest.listed
        obtain ⟨others, further, same⟩ := ih ascending.2 (Nat.succ.inj placed) followed
        exact ⟨p :: others, .cons listed nearest.after further, same⟩

/-- As long as no place lies ahead, the nearest positions are the first ones, so that no choice of
positions gets by with smaller ones. -/
theorem exists_follow_of_inOrder (ascending : ∀ positions ∈ rest, positions.Pairwise (· ≤ ·))
    (placed : offsets.length = rest.length) {prior high : Int} {chosen : List UInt32}
    (occurs : InOrder prior rest chosen) (order : previous ≤ prior)
    (behind : ∀ i (inside : i < offsets.length), base + offsets[i].toNat ≤ previous + 1 + i)
    (bounded : ∀ start ∈ startsOf chosen offsets, start ≤ high) (spread : Spread)
    (low : base ≤ spread.least) (small : spread.greatest ≤ high) :
    ∃ found, follow base previous spread rest offsets = some found ∧ base ≤ found.least ∧
      found.greatest ≤ high := by
  induction occurs generalizing previous spread offsets with
  | nil =>
    cases offsets with
    | nil => exact ⟨spread, rfl, low, small⟩
    | cons => cases placed
  | @cons prior positions rest position others listed after further ih =>
    cases offsets with
    | nil => cases placed
    | cons offset offsets =>
      rw [List.forall_mem_cons] at ascending
      have first : base + offset.toNat ≤ previous + 1 := by
        have place := behind 0 (Nat.zero_lt_succ _)
        rw [List.getElem_cons_zero] at place
        omega
      have nearest := nearestPosition_spec ascending.1 previous (base + offset.toNat)
      rw [follow]
      cases reached : nearestPosition positions previous (base + offset.toNat) with
      | none =>
        rw [reached] at nearest
        have before := nearest position listed
        omega
      | some taken =>
        rw [reached] at nearest
        have later := nearest.after
        have smaller : taken ≤ position.toNat := by
          have near := nearest.nearest position listed (by omega)
          omega
        rw [startsOf, List.zipWith_cons_cons, List.forall_mem_cons] at bounded
        have least : base ≤ (spread.include (taken - offset.toNat)).least := by
          rw [Spread.include, Int.le_min]
          omega
        have greatest : (spread.include (taken - offset.toNat)).greatest ≤ high := by
          rw [Spread.include, Int.max_le]
          omega
        apply ih ascending.2 (Nat.succ.inj placed) smaller _ bounded.2 _ least greatest
        intro i inside
        have place := behind (i + 1) (Nat.succ_lt_succ inside)
        rw [List.getElem_cons_succ] at place
        omega

variable {start offset slop : UInt32}

theorem countsAt_iff : CountsAt start offset rest offsets slop ↔
    ∃ found, follow (start.toNat - offset.toNat) start.toNat
        ⟨start.toNat - offset.toNat, start.toNat - offset.toNat⟩ rest offsets = some found ∧
      found.greatest - found.least ≤ slop.toNat := by
  unfold CountsAt matchLength?
  constructor
  · rintro ⟨length, same, short⟩
    obtain ⟨found, followed, rfl⟩ := Option.map_eq_some_iff.mp same
    exact ⟨found, followed, short⟩
  · rintro ⟨found, followed, short⟩
    exact ⟨found.greatest - found.least, Option.map_eq_some_iff.mpr ⟨found, followed, rfl⟩, short⟩

/-- Nothing is counted that is not an occurrence. -/
theorem CountsAt.occursAt (ascending : ∀ positions ∈ rest, positions.Pairwise (· ≤ ·))
    (placed : offsets.length = rest.length) (counts : CountsAt start offset rest offsets slop) :
    OccursAt start offset rest offsets slop := by
  obtain ⟨found, followed, short⟩ := countsAt_iff.mp counts
  obtain ⟨chosen, inOrder, same⟩ := exists_inOrder_of_follow ascending placed followed
  have below : ∀ other ∈ startsOf (start :: chosen) (offset :: offsets), found.least ≤ other :=
    List.forall_mem_cons.mpr ((Spread.le_least_iff _ _ _).mp (Int.le_of_eq (congrArg Spread.least same)))
  have above : ∀ one ∈ startsOf (start :: chosen) (offset :: offsets), one ≤ found.greatest :=
    List.forall_mem_cons.mpr
      ((Spread.greatest_le_iff _ _ _).mp (Int.le_of_eq (congrArg Spread.greatest same.symm)))
  refine ⟨chosen, inOrder, ?_⟩
  intro one first other second
  have high := above one first
  have low := below other second
  omega

/-- Signed words have room for the starts that terms stand for. -/
theorem startsOf_bounds {chosen places : List UInt32} :
    ∀ one ∈ startsOf chosen places, -(2 ^ 32) < one ∧ one < 2 ^ 32 := by
  intro one member
  rw [startsOf, ← List.map_uncurry_zip_eq_zipWith] at member
  obtain ⟨⟨position, place⟩, -, rfl⟩ := List.mem_map.mp member
  have first := position.toNat_lt
  have second := place.toNat_lt
  simp only [Function.uncurry]
  omega

/-- A match length is not negative, and signed words have room for it. -/
theorem matchLength_bounds (ascending : ∀ positions ∈ rest, positions.Pairwise (· ≤ ·))
    (placed : offsets.length = rest.length) {length : Int}
    (same : matchLength? (start.toNat - offset.toNat) start rest offsets = some length) :
    0 ≤ length ∧ length < 2 ^ 33 := by
  obtain ⟨found, followed, rfl⟩ := Option.map_eq_some_iff.mp same
  obtain ⟨chosen, -, same⟩ := exists_inOrder_of_follow ascending placed followed
  have first := start.toNat_lt
  have second := offset.toNat_lt
  have least := (Spread.le_least_iff _ _ _).mp (Int.le_of_eq (congrArg Spread.least same))
  have greatest := (Spread.greatest_le_iff _ _ _).mp
    (Int.le_of_eq (congrArg Spread.greatest same.symm))
  have low : -(2 ^ 32) + 1 ≤ found.least := by
    rw [same, Spread.le_least_iff]
    refine ⟨by simp only; omega, ?_⟩
    intro one member
    have bounds := startsOf_bounds one member
    omega
  have high : found.greatest ≤ 2 ^ 32 - 1 := by
    rw [same, Spread.greatest_le_iff]
    refine ⟨by simp only; omega, ?_⟩
    intro one member
    have bounds := startsOf_bounds one member
    omega
  have ordered := Int.le_trans least.1 greatest.1
  omega

/-- No term has a place ahead of where it stands if all terms of the phrase follow closely on each
other. -/
def Steady (offset : UInt32) (offsets : List UInt32) : Prop :=
  ∀ i (inside : i < offsets.length), offsets[i].toNat ≤ offset.toNat + 1 + i

theorem OccursAt.countsAt_of_steady (ascending : ∀ positions ∈ rest, positions.Pairwise (· ≤ ·))
    (placed : offsets.length = rest.length) (steady : Steady offset offsets)
    (occurs : OccursAt start offset rest offsets slop) :
    CountsAt start offset rest offsets slop := by
  obtain ⟨chosen, inOrder, near⟩ := occurs
  rw [startsOf, List.zipWith_cons_cons, ← startsOf] at near
  have bounded : ∀ one ∈ startsOf chosen offsets,
      one ≤ (start.toNat : Int) - offset.toNat + slop.toNat := by
    intro one member
    have apart := near one (List.mem_cons_of_mem _ member) _ List.mem_cons_self
    omega
  have behind : ∀ i (inside : i < offsets.length),
      (start.toNat : Int) - offset.toNat + offsets[i].toNat ≤ start.toNat + 1 + i := by
    intro i inside
    have ahead := steady i inside
    omega
  have small : (start.toNat : Int) - offset.toNat ≤ start.toNat - offset.toNat + slop.toNat := by
    omega
  obtain ⟨found, followed, low, high⟩ := exists_follow_of_inOrder ascending placed inOrder
    (Int.le_refl _) behind bounded ⟨start.toNat - offset.toNat, start.toNat - offset.toNat⟩
    (Int.le_refl _) small
  exact countsAt_iff.mpr ⟨found, followed, by omega⟩

/-- With two terms the nearest position makes the shortest occurrence. -/
theorem OccursAt.countsAt_of_pair {positions : List UInt32} {place : UInt32}
    (ascending : positions.Pairwise (· ≤ ·))
    (occurs : OccursAt start offset [positions] [place] slop) :
    CountsAt start offset [positions] [place] slop := by
  obtain ⟨chosen, inOrder, near⟩ := occurs
  cases inOrder with
  | @cons _ _ _ position others listed after further =>
    cases further
    have apart := near (position.toNat - place.toNat) (by simp [startsOf])
      (start.toNat - offset.toNat) (by simp [startsOf])
    have back := near (start.toNat - offset.toNat) (by simp [startsOf])
      (position.toNat - place.toNat) (by simp [startsOf])
    have nearest := nearestPosition_spec ascending start.toNat
      (start.toNat - offset.toNat + place.toNat)
    cases reached : nearestPosition positions start.toNat
        (start.toNat - offset.toNat + place.toNat) with
    | none =>
      rw [reached] at nearest
      have before := nearest position listed
      omega
    | some taken =>
      rw [reached] at nearest
      have closer := nearest.nearest position listed after
      apply countsAt_iff.mpr
      simp only [follow, reached, Spread.include]
      refine ⟨_, rfl, ?_⟩
      simp only
      omega

def countedAt (start offset : UInt32) (rest : List (List UInt32)) (offsets : List UInt32)
    (slop : UInt32) : Option Float32 :=
  match matchLength? (start.toNat - offset.toNat) start rest offsets with
  | some length =>
    if length ≤ slop.toNat then some (Similarity.sloppyFreq (.ofNat length.toNat)) else none
  | none => none

theorem sloppyFreq_eq_ok (starts : List UInt32) (rest : List (List UInt32)) (offset : UInt32)
    (offsets : List UInt32) (slop : UInt32) :
    sloppyFreq (starts :: rest) (offset :: offsets) slop = .ok ((starts.filterMap fun start =>
      countedAt start offset rest offsets slop).foldl (· + ·) 0.0) := by
  unfold sloppyFreq
  exact countStarts_eq_ok fun start => rfl

theorem isSome_countedAt_iff : (countedAt start offset rest offsets slop).isSome ↔
    CountsAt start offset rest offsets slop := by
  unfold countedAt CountsAt
  cases matchLength? (start.toNat - offset.toNat) start rest offsets with
  | none => simp
  | some length => simp [Option.isSome_ite]

theorem positive_of_countedAt {amount : Float32}
    (counted : countedAt start offset rest offsets slop = some amount) :
    Single.Positive amount := by
  unfold countedAt at counted
  split at counted
  · rw [Option.ite_none_right_eq_some] at counted
    obtain ⟨-, same⟩ := counted
    cases same
    exact Single.positive_sloppyFreq _
  · cases counted

/-- The frequency is above zero exactly if some start adds to it. -/
theorem zero_lt_sum_iff (starts : List UInt32) :
    (0.0 < (starts.filterMap fun start => countedAt start offset rest offsets slop).foldl
        (· + ·) 0.0) ↔ ∃ start ∈ starts, CountsAt start offset rest offsets slop := by
  constructor
  · intro positive
    by_contra none
    simp only [not_exists, not_and, ← isSome_countedAt_iff, Option.not_isSome_iff_eq_none] at none
    rw [sum_of_none none] at positive
    exact absurd positive Single.not_zero_lt_zero
  · rintro ⟨start, member, counts⟩
    rw [Single.zero_lt_iff]
    apply positive_sum _ member
    · exact isSome_countedAt_iff.mpr counts
    · intro other amount
      exact positive_of_countedAt

/-- A phrase without a position for one of its terms has no start that counts. -/
theorem sum_of_missing {starts : List UInt32}
    (ascending : ∀ positions ∈ rest, positions.Pairwise (· ≤ ·))
    (placed : offsets.length = rest.length) (missing : (starts :: rest).any List.isEmpty = true) :
    (starts.filterMap fun start => countedAt start offset rest offsets slop).foldl (· + ·) 0.0 =
      0.0 := by
  apply sum_of_none
  intro start member
  by_contra counted
  have counts := isSome_countedAt_iff.mp (Option.isSome_iff_ne_none.mpr counted)
  obtain ⟨chosen, inOrder, -⟩ := counts.occursAt ascending placed
  rw [List.any_eq_true] at missing
  obtain ⟨positions, listed, empty⟩ := missing
  rcases List.mem_cons.mp listed with rfl | further
  · rw [List.isEmpty_iff.mp empty] at member
    cases member
  · exact inOrder.ne_nil positions further (List.isEmpty_iff.mp empty)

theorem freq_eq_ok {starts : List UInt32} (ascending : ∀ positions ∈ rest, positions.Pairwise (· ≤ ·))
    (placed : offsets.length = rest.length) (allowed : slop ≠ 0) :
    freq (starts :: rest) (offset :: offsets) slop = .ok ((starts.filterMap fun start =>
      countedAt start offset rest offsets slop).foldl (· + ·) 0.0) := by
  unfold freq
  rw [if_neg allowed, sloppyFreq_eq_ok]
  split
  · rename_i missing
    rw [sum_of_missing ascending placed missing]
  · rfl

/-- Where no place lies ahead of where its term may stand, and in phrases of two terms, a start
counts exactly if an occurrence within the slop starts there, and the frequency is above zero
exactly if there is such a start. -/
theorem counts_every_occurrence {starts : List UInt32}
    (ascending : ∀ positions ∈ rest, positions.Pairwise (· ≤ ·))
    (placed : offsets.length = rest.length) (close : Steady offset offsets ∨ offsets.length = 1)
    (allowed : slop ≠ 0) :
    (∀ start, CountsAt start offset rest offsets slop ↔ OccursAt start offset rest offsets slop) ∧
    ∃ found, freq (starts :: rest) (offset :: offsets) slop = .ok found ∧
      (0.0 < found ↔ ∃ start ∈ starts, OccursAt start offset rest offsets slop) := by
  have counts : ∀ start, CountsAt start offset rest offsets slop ↔
      OccursAt start offset rest offsets slop := by
    intro start
    constructor
    · exact CountsAt.occursAt ascending placed
    · intro occurs
      rcases close with steady | pair
      · exact occurs.countsAt_of_steady ascending placed steady
      · obtain ⟨place, rfl⟩ := List.length_eq_one_iff.mp pair
        obtain ⟨positions, rfl⟩ := List.length_eq_one_iff.mp placed.symm
        exact occurs.countsAt_of_pair (ascending positions List.mem_cons_self)
  refine ⟨counts, _, freq_eq_ok ascending placed allowed, ?_⟩
  rw [zero_lt_sum_iff]
  simp only [counts]

/-- A word too many in the text, behind the first one. -/
theorem extra_word_counts : OccursAt 1 0 [[3], [4]] [1, 2] 1 ∧ CountsAt 1 0 [[3], [4]] [1, 2] 1 ∧
    ∃ found, freq [[1], [3], [4]] [0, 1, 2] 1 = .ok found ∧ 0.0 < found := by
  have ascending : ∀ positions ∈ ([[3], [4]] : List (List UInt32)),
      positions.Pairwise (· ≤ ·) := by decide
  have steady : Steady 0 [1, 2] := by
    unfold Steady
    decide
  have occurs : OccursAt 1 0 [[3], [4]] [1, 2] 1 :=
    ⟨[3, 4], .cons (by decide) (by decide) (.cons (by decide) (by decide) (.nil _)), by decide⟩
  obtain ⟨counts, found, summed, positive⟩ :
      (∀ start, CountsAt start 0 [[3], [4]] [1, 2] 1 ↔ OccursAt start 0 [[3], [4]] [1, 2] 1) ∧
      ∃ found, freq [[1], [3], [4]] [0, 1, 2] 1 = .ok found ∧
        (0.0 < found ↔ ∃ start ∈ [1], OccursAt start 0 [[3], [4]] [1, 2] 1) :=
    counts_every_occurrence ascending rfl (Or.inl steady) (by decide)
  exact ⟨occurs, (counts 1).mpr occurs, found, summed, positive.mpr ⟨1, List.mem_cons_self, occurs⟩⟩

/-- Words with others left out between the first two, in a text that has the second word twice: the
later of the two is nearer to its place, and the third word does not come after it. -/
theorem nearest_misses_occurrence :
    (∀ positions ∈ ([[2, 5], [4]] : List (List UInt32)), positions.Pairwise (· ≤ ·)) ∧
    OccursAt 1 0 [[2, 5], [4]] [3, 4] 2 ∧ ¬ CountsAt 1 0 [[2, 5], [4]] [3, 4] 2 ∧
    freq [[1], [2, 5], [4]] [0, 3, 4] 2 = .ok 0.0 := by
  refine ⟨by decide, ⟨[2, 4], ?_, by decide⟩, ?_, rfl⟩
  · exact .cons (by decide) (by decide) (.cons (by decide) (by decide) (.nil _))
  · rintro ⟨length, same, -⟩
    have none : matchLength? 1 1 [[2, 5], [4]] [3, 4] = none := by decide +kernel
    cases none.symm.trans same

end Relevance.Phrase
