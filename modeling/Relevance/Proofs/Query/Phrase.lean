import Relevance.Proofs.Fault
import Relevance.Proofs.Numeric.Positive
import Relevance.Query.Phrase

set_option autoImplicit false

namespace Relevance.Phrase

/-- Bisection between `base` and `base + size` ends at the last place that lies before what is
looked for, unless it never leaves `base`. -/
theorem bisectFrom_spec {positions : List UInt32} (before : UInt32 → Bool)
    (closed : ∀ i j, i ≤ j → j < positions.length → before (positions.getD j 0) →
      before (positions.getD i 0))
    (steps size base : Nat) (enough : size ≤ steps + 1) (occupied : 0 < size)
    (inside : base + size ≤ positions.length) :
    base ≤ bisectFrom positions before steps size base ∧
      bisectFrom positions before steps size base < base + size ∧
      (∀ i, base < i → i ≤ bisectFrom positions before steps size base →
        before (positions.getD i 0)) ∧
      ∀ i, bisectFrom positions before steps size base < i → i < base + size →
        ¬ before (positions.getD i 0) := by
  induction steps generalizing size base with
  | zero =>
    rw [bisectFrom]
    refine ⟨Nat.le_refl _, by omega, fun i above below => ?_, fun i above below => ?_⟩ <;> omega
  | succ steps ih =>
    rw [bisectFrom]
    split
    · refine ⟨Nat.le_refl _, by omega, fun i above below => ?_, fun i above below => ?_⟩ <;> omega
    rename_i several
    simp only
    split
    · rename_i reached
      obtain ⟨low, high, prior, later⟩ :=
        ih (size - size / 2) (base + size / 2) (by omega) (by omega) (by omega)
      refine ⟨by omega, by omega, fun i above below => ?_, fun i above below => ?_⟩
      · by_cases upper : base + size / 2 < i
        · exact prior i upper below
        · exact closed i (base + size / 2) (by omega) (by omega) reached
      · exact later i above (by omega)
    · rename_i passed
      obtain ⟨low, high, prior, later⟩ := ih (size - size / 2) base (by omega) (by omega) (by omega)
      refine ⟨low, by omega, prior, fun i above below => ?_⟩
      by_cases lower : i < base + (size - size / 2)
      · exact later i above lower
      · exact fun reached => passed (closed (base + size / 2) i (by omega) (by omega) reached)

theorem getD_eq_getElem {positions : List UInt32} {i : Nat}
    (inside : i < positions.length) : positions.getD i 0 = positions[i] := by
  rw [List.getD_eq_getElem?_getD, List.getElem?_eq_getElem inside, Option.getD_some]

theorem getD_le_getD {positions : List UInt32} (ascending : positions.Pairwise (· ≤ ·)) {i j : Nat}
    (order : i ≤ j) (inside : j < positions.length) :
    positions.getD i 0 ≤ positions.getD j 0 := by
  rw [getD_eq_getElem inside, getD_eq_getElem (Nat.lt_of_le_of_lt order inside)]
  rcases Nat.lt_or_eq_of_le order with less | rfl
  · exact List.pairwise_iff_getElem.mp ascending i j (by omega) inside less
  · exact UInt32.le_refl _

/-- Bisection finds a position of an ascending list exactly if it is there. -/
theorem isMember_iff {positions : List UInt32} (ascending : positions.Pairwise (· ≤ ·))
    (wanted : UInt32) : isMember positions wanted = true ↔ wanted ∈ positions := by
  unfold isMember
  rw [decide_eq_true_eq]
  constructor
  · exact List.mem_of_getElem?
  · intro member
    obtain ⟨i, inside, rfl⟩ := List.mem_iff_getElem.mp member
    have closed : ∀ j k, j ≤ k → k < positions.length →
        decide (positions.getD k 0 ≤ positions[i]) = true →
        decide (positions.getD j 0 ≤ positions[i]) = true := by
      simp only [decide_eq_true_eq]
      intro j k order bound reached
      exact UInt32.le_trans (getD_le_getD ascending order bound) reached
    have occupied : 0 < positions.length := Nat.zero_lt_of_lt inside
    obtain ⟨-, high, prior, later⟩ := bisectFrom_spec (fun p => decide (p ≤ positions[i])) closed
      positions.length positions.length 0 (Nat.le_succ _) occupied (Nat.le_of_eq (Nat.zero_add _))
    simp only [decide_eq_true_eq, Nat.zero_add] at high prior later
    unfold bisect
    generalize bisectFrom positions (fun p => decide (p ≤ positions[i])) positions.length
      positions.length 0 = place at high prior later
    have placed : i ≤ place := by
      refine Nat.le_of_not_lt fun after => later i after inside ?_
      rw [getD_eq_getElem inside]
      exact UInt32.le_refl _
    rw [List.getElem?_eq_getElem high, Option.some.injEq]
    rcases Nat.eq_zero_or_pos place with rfl | positive
    · rw [getElem_congr_idx (Nat.le_zero.mp placed)]
    · have below := prior place positive (Nat.le_refl _)
      have above := getD_le_getD ascending placed high
      rw [getD_eq_getElem high] at below above
      rw [getD_eq_getElem inside] at above
      exact UInt32.le_antisymm below above

/-- Counting starts adds up what each of them counts. -/
theorem countStarts_eq_ok {starts : List UInt32}
    {contribution : UInt32 → Except Fault (Option Float32)} {part : UInt32 → Option Float32}
    (each : ∀ start, contribution start = .ok (part start)) :
    countStarts starts contribution = .ok ((starts.filterMap part).foldl (· + ·) 0.0) := by
  unfold countStarts
  generalize (0.0 : Float32) = sum
  induction starts generalizing sum with
  | nil => rfl
  | cons start rest ih =>
    rw [List.foldlM_cons, each, List.filterMap_cons]
    cases part start with
    | none => exact ih sum
    | some amount => exact ih (sum + amount)

theorem baseOf_cons (start offset : UInt32) (offsets : List UInt32) :
    baseOf start (offset :: offsets) = .ok (start.toNat - offset.toNat) := rfl

/-- A phrase whose first term has an offset always has a frequency. -/
theorem exists_freq {positions : List (List UInt32)} {offsets : List UInt32}
    (placed : offsets.length = positions.length) (slop : UInt32) :
    ∃ found, freq positions offsets slop = .ok found := by
  unfold freq
  split
  · exact ⟨_, rfl⟩
  cases positions with
  | nil => split <;> exact ⟨_, rfl⟩
  | cons starts rest =>
    cases offsets with
    | nil => cases placed
    | cons offset others =>
      split
      · exact ⟨_, countStarts_eq_ok fun start => by rw [baseOf_cons, Fault.ok_bind]; rfl⟩
      · exact ⟨_, countStarts_eq_ok fun start => by rw [baseOf_cons, Fault.ok_bind]; rfl⟩

/-- The frequency of a phrase in its places counts one for every start at which the other terms
stand in theirs. -/
theorem exactFreq_eq_ok (starts : List UInt32) (rest : List (List UInt32)) (offset : UInt32)
    (offsets : List UInt32) :
    exactFreq (starts :: rest) (offset :: offsets) = .ok ((starts.filterMap fun start =>
      if allInPlace (start.toNat - offset.toNat) rest offsets then some 1.0 else none).foldl
        (· + ·) 0.0) := by
  unfold exactFreq
  exact countStarts_eq_ok fun start => rfl

section
variable {starts : List UInt32} {part : UInt32 → Option Float32}

theorem sum_of_none (none : ∀ start ∈ starts, part start = none) :
    (starts.filterMap part).foldl (· + ·) 0.0 = 0.0 := by
  rw [List.filterMap_eq_nil_iff.mpr none]
  rfl

theorem positive_sum (positive : ∀ start amount, part start = some amount → Single.Positive amount)
    {start : UInt32} (member : start ∈ starts) (counted : (part start).isSome) :
    Single.Positive ((starts.filterMap part).foldl (· + ·) 0.0) := by
  apply Single.positive_foldl_add
  · intro amount added
    obtain ⟨other, -, same⟩ := List.mem_filterMap.mp added
    exact positive other amount same
  · obtain ⟨amount, same⟩ := Option.isSome_iff_exists.mp counted
    exact List.ne_nil_of_mem (List.mem_filterMap.mpr ⟨start, member, same⟩)

end

/-- Counting one for every start that fits gives more than zero exactly if one fits. -/
theorem countOnes_iff (starts : List UInt32) (fits : UInt32 → Bool) :
    ¬ (starts.filterMap fun start => if fits start then some (1.0 : Float32) else none).foldl
        (· + ·) 0.0 ≤ 0.0 ↔ ∃ start ∈ starts, fits start = true := by
  constructor
  · intro positive
    by_contra none
    simp only [not_exists, not_and] at none
    rw [sum_of_none fun start member => if_neg (none start member)] at positive
    exact positive Single.zero_le_zero
  · rintro ⟨start, member, fit⟩
    apply Single.Positive.not_le_zero
    apply positive_sum _ member
    · rw [if_pos fit]
      rfl
    · intro other amount same
      rw [Option.ite_none_right_eq_some] at same
      cases same.2
      exact Single.positive_one

/-- The terms of a phrase stand in their places if each of those is among the positions of its
term. -/
theorem allInPlace_map_iff {α : Type} (base : Int) (items : List α) (positions : α → List UInt32)
    (offset : α → UInt32) :
    allInPlace base (items.map positions) (items.map offset) = true ↔
      ∀ item ∈ items, 0 ≤ base + (offset item).toNat ∧
        isMember (positions item) (.ofNat (base + (offset item).toNat).toNat) = true := by
  induction items with
  | nil => simp [allInPlace]
  | cons item rest ih =>
    simp only [List.map_cons, allInPlace, Bool.and_eq_true, decide_eq_true_eq, ih,
      List.forall_mem_cons]

end Relevance.Phrase
