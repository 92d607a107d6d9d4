import Relevance.Proofs.Numeric.Counting
import Relevance.Proofs.Query.Phrase

set_option autoImplicit false

namespace Relevance.Phrase

/-- Every term has its place among its positions, in a phrase that starts from `base`. -/
def StandsFrom (base : Int) (positions : List (List UInt32)) (offsets : List UInt32) : Prop :=
  List.Forall₂ (fun positions place =>
    ∃ position ∈ positions, (position.toNat : Int) = base + place.toNat) positions offsets

instance (base : Int) (positions : List (List UInt32)) (offsets : List UInt32) :
    Decidable (StandsFrom base positions offsets) :=
  inferInstanceAs (Decidable (List.Forall₂ _ positions offsets))

/-- No place of the phrase lies beyond the last position, wherever its first term stands. -/
def PlacesFit : List (List UInt32) → List UInt32 → Prop
  | starts :: _, offset :: offsets => ∀ start ∈ starts, ∀ place ∈ offset :: offsets,
    (start.toNat : Int) - offset.toNat + place.toNat < 2 ^ 32
  | _, _ => True

variable {base : Int} {starts : List UInt32} {rest : List (List UInt32)} {offset : UInt32}
  {offsets : List UInt32}

/-- The first term stands in its place wherever the phrase starts. -/
theorem standsFrom_cons_iff {start : UInt32} (listed : start ∈ starts) :
    StandsFrom (start.toNat - offset.toNat) (starts :: rest) (offset :: offsets) ↔
      StandsFrom (start.toNat - offset.toNat) rest offsets := by
  unfold StandsFrom
  rw [List.forall₂_cons]
  apply and_iff_right
  exact ⟨start, listed, by omega⟩

/-- A position in its place is found there. -/
theorem isMember_of_place {positions : List UInt32} (ascending : positions.Pairwise (· ≤ ·))
    {place : Int} (stands : ∃ position ∈ positions, (position.toNat : Int) = place) :
    0 ≤ place ∧ isMember positions (.ofNat place.toNat) = true := by
  obtain ⟨position, listed, same⟩ := stands
  have back : UInt32.ofNat place.toNat = position := by
    rw [← same, Int.toNat_natCast, UInt32.ofNat_toNat]
  constructor
  · omega
  · rw [back, isMember_iff ascending]
    exact listed

/-- What is found in a place that words have room for stands there. -/
theorem place_of_isMember {positions : List UInt32} (ascending : positions.Pairwise (· ≤ ·))
    {place : Int} (above : 0 ≤ place) (fits : place < 2 ^ 32)
    (found : isMember positions (.ofNat place.toNat) = true) :
    ∃ position ∈ positions, (position.toNat : Int) = place := by
  rw [isMember_iff ascending] at found
  have room : (UInt32.ofNat place.toNat).toNat = place.toNat := by
    apply UInt32.toNat_ofNat_of_lt
    change place.toNat < 2 ^ 32
    omega
  refine ⟨UInt32.ofNat place.toNat, found, ?_⟩
  rw [room]
  omega

theorem StandsFrom.allInPlace (ascending : ∀ positions ∈ rest, positions.Pairwise (· ≤ ·))
    (stands : StandsFrom base rest offsets) : allInPlace base rest offsets = true := by
  unfold StandsFrom at stands
  induction stands with
  | nil => rfl
  | cons first _ ih =>
    rw [List.forall_mem_cons] at ascending
    have placed := isMember_of_place ascending.1 first
    simp only [Phrase.allInPlace, placed, decide_true, Bool.true_and]
    exact ih ascending.2

theorem standsFrom_of_allInPlace (ascending : ∀ positions ∈ rest, positions.Pairwise (· ≤ ·))
    (placed : offsets.length = rest.length) (fit : ∀ place ∈ offsets, base + place.toNat < 2 ^ 32)
    (stands : allInPlace base rest offsets = true) : StandsFrom base rest offsets := by
  induction rest generalizing offsets with
  | nil =>
    cases List.length_eq_zero_iff.mp placed
    exact .nil
  | cons positions rest ih =>
    cases offsets with
    | nil => cases placed
    | cons place offsets =>
      rw [List.forall_mem_cons] at ascending fit
      simp only [allInPlace, Bool.and_eq_true, decide_eq_true_eq] at stands
      obtain ⟨⟨above, found⟩, further⟩ := stands
      have first := place_of_isMember ascending.1 above fit.1 found
      exact .cons first (ih ascending.2 (Nat.succ.inj placed) fit.2 further)

/-- With room for all places, the terms stand in them exactly if they are found there. -/
theorem allInPlace_iff_standsFrom (ascending : ∀ positions ∈ rest, positions.Pairwise (· ≤ ·))
    (placed : offsets.length = rest.length) (fit : PlacesFit (starts :: rest) (offset :: offsets))
    {start : UInt32} (listed : start ∈ starts) :
    allInPlace (start.toNat - offset.toNat) rest offsets = true ↔
      StandsFrom (start.toNat - offset.toNat) rest offsets := by
  constructor
  · apply standsFrom_of_allInPlace ascending placed
    intro place member
    exact fit start listed place (List.mem_cons_of_mem _ member)
  · exact StandsFrom.allInPlace ascending

/-- The frequency without slop is the number of starts from which all terms stand in their places,
counted as often as each is listed and as far as singles count by ones, which is to `2 ^ 24`. Where
some place lies beyond the last position it may be larger, and is never smaller. -/
theorem exactFreq_counts_occurrences (starts : List UInt32) (offset : UInt32)
    (offsets : List UInt32) (ascending : ∀ positions ∈ rest, positions.Pairwise (· ≤ ·))
    (placed : offsets.length = rest.length) :
    ∃ count, exactFreq (starts :: rest) (offset :: offsets) =
        .ok (countToSingle (min count (2 ^ 24))) ∧
      starts.countP (fun start =>
        StandsFrom (start.toNat - offset.toNat) (starts :: rest) (offset :: offsets)) ≤ count ∧
      (PlacesFit (starts :: rest) (offset :: offsets) → count = starts.countP fun start =>
        StandsFrom (start.toNat - offset.toNat) (starts :: rest) (offset :: offsets)) := by
  refine ⟨starts.countP fun start => allInPlace (start.toNat - offset.toNat) rest offsets, ?_, ?_, ?_⟩
  · rw [exactFreq_eq_ok, Single.sum_ones_eq_count]
  · apply List.countP_mono_left
    intro start listed stands
    have further := (standsFrom_cons_iff listed).mp (of_decide_eq_true stands)
    exact further.allInPlace ascending
  · intro fit
    apply List.countP_congr
    intro start listed
    rw [decide_eq_true_eq, standsFrom_cons_iff listed]
    exact allInPlace_iff_standsFrom ascending placed fit listed

/-- A phrase up to the last position there is, with one start listed twice. -/
theorem last_positions_counted :
    (∀ positions ∈ ([[7, 4294967295]] : List (List UInt32)), positions.Pairwise (· ≤ ·)) ∧
    PlacesFit [[5, 4294967293, 4294967293], [7, 4294967295]] [1, 3] ∧
    exactFreq [[5, 4294967293, 4294967293], [7, 4294967295]] [1, 3] = .ok (countToSingle 3) := by
  have ascending : ∀ positions ∈ ([[7, 4294967295]] : List (List UInt32)),
      positions.Pairwise (· ≤ ·) := by decide
  have fit : PlacesFit [[5, 4294967293, 4294967293], [7, 4294967295]] [1, 3] := by
    simp [PlacesFit]
  obtain ⟨count, counted, -, same⟩ :=
    exactFreq_counts_occurrences [5, 4294967293, 4294967293] 1 [3] ascending rfl
  refine ⟨ascending, fit, ?_⟩
  rw [counted, same fit]
  decide

/-- The place behind the last position is taken for the first position. -/
theorem place_beyond_counts_round :
    (∀ positions ∈ ([[4294967295], [0]] : List (List UInt32)), positions.Pairwise (· ≤ ·)) ∧
    [4294967295].countP (fun start : UInt32 =>
      StandsFrom (start.toNat - (0 : UInt32).toNat) [[4294967295], [0]] [0, 1]) = 0 ∧
    exactFreq [[4294967295], [0]] [0, 1] = .ok 1.0 := by
  refine ⟨by decide, by decide, ?_⟩
  decide +kernel

end Relevance.Phrase
