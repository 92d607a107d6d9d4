import Relevance.Proofs.Query.Phrase

set_option autoImplicit false

namespace Relevance.Phrase

variable {positions : List UInt32} {previous target position : Int}

/-- The positions below a bound are the first ones. -/
theorem lt_countBelow_iff (ascending : positions.Pairwise (· ≤ ·)) (bound : Int) {i : Nat}
    (inside : i < positions.length) :
    i < countBelow positions bound ↔ ((positions.getD i 0).toNat : Int) < bound := by
  have closed : ∀ j k, j ≤ k → k < positions.length →
      decide (((positions.getD k 0).toNat : Int) < bound) = true →
      decide (((positions.getD j 0).toNat : Int) < bound) = true := by
    simp only [decide_eq_true_eq]
    intro j k order within below
    have smaller : (positions.getD j 0).toNat ≤ (positions.getD k 0).toNat :=
      getD_le_getD ascending order within
    omega
  obtain ⟨-, high, prior, later⟩ := bisectFrom_spec (fun p => decide ((p.toNat : Int) < bound))
    closed positions.length positions.length 0 (Nat.le_succ _) (Nat.zero_lt_of_lt inside)
    (Nat.le_of_eq (Nat.zero_add _))
  simp only [decide_eq_true_eq, Nat.zero_add] at closed high prior later
  unfold countBelow bisect
  generalize bisectFrom positions (fun p => decide ((p.toNat : Int) < bound)) positions.length
    positions.length 0 = place at high prior later
  simp only [List.getElem?_eq_getElem high, ← getD_eq_getElem high]
  split
  · rename_i below
    constructor
    · intro before
      exact closed i place (by omega) high below
    · intro less
      by_contra after
      exact later i (by omega) inside less
  · rename_i above
    -- Bisection never left its first place, so nothing is below the bound.
    have first : place = 0 := by
      by_contra positive
      exact above (prior place (by omega) (Nat.le_refl place))
    subst first
    constructor
    · intro impossible
      omega
    · intro less
      exact absurd (closed 0 i (Nat.zero_le i) inside less) above

theorem countBelow_le (positions : List UInt32) (bound : Int) :
    countBelow positions bound ≤ positions.length := by
  unfold countBelow
  simp only
  split
  · rename_i p present
    obtain ⟨inside, -⟩ := List.getElem?_eq_some_iff.mp present
    split
    · exact inside
    · exact Nat.le_of_lt inside
  · exact Nat.zero_le _

/-- The first position that is not below a bound. -/
theorem first_from_bound (ascending : positions.Pairwise (· ≤ ·)) (bound : Int) :
    match positions[countBelow positions bound]? with
    | some first => first ∈ positions ∧ bound ≤ first.toNat ∧
        ∀ p ∈ positions, bound ≤ p.toNat → first.toNat ≤ p.toNat
    | none => ∀ p ∈ positions, (p.toNat : Int) < bound := by
  split
  · rename_i first present
    obtain ⟨inside, rfl⟩ := List.getElem?_eq_some_iff.mp present
    have known := lt_countBelow_iff ascending bound inside
    rw [getD_eq_getElem inside] at known
    refine ⟨List.getElem_mem inside, by omega, ?_⟩
    intro p member above
    obtain ⟨i, within, rfl⟩ := List.mem_iff_getElem.mp member
    have behind := lt_countBelow_iff ascending bound within
    rw [getD_eq_getElem within] at behind
    have order := getD_le_getD ascending (show countBelow positions bound ≤ i by omega) within
    rwa [getD_eq_getElem inside, getD_eq_getElem within] at order
  · rename_i absent
    have full := List.getElem?_eq_none_iff.mp absent
    intro p member
    obtain ⟨i, within, rfl⟩ := List.mem_iff_getElem.mp member
    have before := lt_countBelow_iff ascending bound within
    rw [getD_eq_getElem within] at before
    exact before.mp (by omega)

/-- The last position below a bound. -/
theorem last_below_bound (ascending : positions.Pairwise (· ≤ ·)) (bound : Int) :
    match if countBelow positions bound = 0 then none
      else positions[countBelow positions bound - 1]? with
    | some last => last ∈ positions ∧ (last.toNat : Int) < bound ∧
        ∀ p ∈ positions, (p.toNat : Int) < bound → p.toNat ≤ last.toNat
    | none => ∀ p ∈ positions, bound ≤ p.toNat := by
  have short := countBelow_le positions bound
  split
  · rename_i last present
    rw [Option.ite_none_left_eq_some] at present
    obtain ⟨inside, rfl⟩ := List.getElem?_eq_some_iff.mp present.2
    have known := lt_countBelow_iff ascending bound inside
    rw [getD_eq_getElem inside] at known
    refine ⟨List.getElem_mem inside, known.mp (by omega), ?_⟩
    intro p member less
    obtain ⟨i, within, rfl⟩ := List.mem_iff_getElem.mp member
    have before := lt_countBelow_iff ascending bound within
    rw [getD_eq_getElem within] at before
    have order := getD_le_getD ascending (show i ≤ countBelow positions bound - 1 by omega) inside
    rwa [getD_eq_getElem inside, getD_eq_getElem within] at order
  · rename_i absent
    have zero : countBelow positions bound = 0 := by
      by_contra nonzero
      rw [if_neg nonzero, List.getElem?_eq_none_iff] at absent
      omega
    intro p member
    obtain ⟨i, within, rfl⟩ := List.mem_iff_getElem.mp member
    have before := lt_countBelow_iff ascending bound within
    rw [getD_eq_getElem within] at before
    omega

/-- A listed position after the previous one, and none such is nearer to the target, nor as near and
smaller. -/
structure Nearest (positions : List UInt32) (previous target position : Int) : Prop where
  listed : ∃ p ∈ positions, (p.toNat : Int) = position
  after : previous < position
  nearest : ∀ p ∈ positions, previous < p.toNat →
    (position - target).natAbs < ((p.toNat : Int) - target).natAbs ∨
      (position - target).natAbs = ((p.toNat : Int) - target).natAbs ∧ position ≤ p.toNat

/-- A position below the target is nearest if those behind it are at least as far beyond. -/
theorem nearest_of_le {taken : UInt32} (listed : taken ∈ positions) (after : previous < taken.toNat)
    (low : (taken.toNat : Int) ≤ target)
    (sides : ∀ p ∈ positions, previous < p.toNat →
      p.toNat ≤ taken.toNat ∨ target - taken.toNat ≤ p.toNat - target) :
    Nearest positions previous target taken.toNat := by
  refine ⟨⟨taken, listed, rfl⟩, after, ?_⟩
  intro p member later
  have side := sides p member later
  omega

/-- A position from the target on is nearest if those before it are farther on the other side. -/
theorem nearest_of_ge {taken : UInt32} (listed : taken ∈ positions) (after : previous < taken.toNat)
    (high : target ≤ taken.toNat)
    (sides : ∀ p ∈ positions, previous < p.toNat →
      taken.toNat ≤ p.toNat ∨ (taken.toNat : Int) - target < target - p.toNat) :
    Nearest positions previous target taken.toNat := by
  refine ⟨⟨taken, listed, rfl⟩, after, ?_⟩
  intro p member later
  have side := sides p member later
  omega

theorem nearestPosition_spec (ascending : positions.Pairwise (· ≤ ·)) (previous target : Int) :
    match nearestPosition positions previous target with
    | none => ∀ p ∈ positions, (p.toNat : Int) ≤ previous
    | some position => Nearest positions previous target position := by
  have upper := first_from_bound ascending (max target (previous + 1))
  have lower := last_below_bound ascending (max target (previous + 1))
  unfold nearestPosition
  generalize countBelow positions (max target (previous + 1)) = index at upper lower ⊢
  have merged : (if index = 0 then none
      else (positions[index - 1]?.map fun p => (p.toNat : Int)).filter (previous < ·)) =
      ((if index = 0 then none else positions[index - 1]?).map fun p => (p.toNat : Int)).filter
        (previous < ·) := by
    split <;> rfl
  simp only [merged]
  generalize (if index = 0 then none else positions[index - 1]?) = last at lower ⊢
  generalize positions[index]? = first at upper ⊢
  cases last with
  | none =>
    cases first with
    | none =>
      intro p member
      have below := upper p member
      have above := lower p member
      omega
    | some first =>
      obtain ⟨present, high, least⟩ := upper
      apply nearest_of_ge present (by omega) (by omega)
      intro p member _
      exact Or.inl (least p member (lower p member))
  | some last =>
    obtain ⟨listed, low, greatest⟩ := lower
    by_cases eligible : previous < last.toNat
    · simp only [Option.map_some, Option.filter_some, eligible, decide_true, if_true]
      cases first with
      | none =>
        apply nearest_of_le listed eligible (by omega)
        intro p member _
        exact Or.inl (greatest p member (upper p member))
      | some first =>
        obtain ⟨present, high, least⟩ := upper
        have apart : ∀ p ∈ positions, p.toNat ≤ last.toNat ∨ first.toNat ≤ p.toNat := by
          intro p member
          by_cases below : (p.toNat : Int) < max target (previous + 1)
          · exact Or.inl (greatest p member below)
          · exact Or.inr (least p member (by omega))
        simp only [Option.map_some]
        by_cases nearer : target - last.toNat ≤ first.toNat - target
        · simp only [nearer, if_true]
          apply nearest_of_le listed eligible (by omega)
          intro p member _
          have side := apart p member
          omega
        · simp only [nearer, if_false]
          apply nearest_of_ge present (by omega) (by omega)
          intro p member _
          have side := apart p member
          omega
    · simp only [Option.map_some, Option.filter_some, eligible, decide_false, Bool.false_eq_true,
        if_false]
      cases first with
      | none =>
        intro p member
        have earlier := greatest p member (upper p member)
        omega
      | some first =>
        obtain ⟨present, high, least⟩ := upper
        apply nearest_of_ge present (by omega) (by omega)
        intro p member later
        by_cases below : (p.toNat : Int) < max target (previous + 1)
        · have earlier := greatest p member below
          omega
        · exact Or.inl (least p member (by omega))

/-- There is at most one nearest position. -/
theorem Nearest.eq {other : Int} (first : Nearest positions previous target position)
    (second : Nearest positions previous target other) : position = other := by
  obtain ⟨⟨p, member, rfl⟩, after, nearest⟩ := first
  obtain ⟨⟨q, listed, rfl⟩, later, closest⟩ := second
  have one := nearest q listed later
  have two := closest p member after
  omega

/-- The position that is found is the nearest one after the previous one, of two as near the
smaller, and none is found only if there is none after the previous one. -/
theorem nearestPosition_exact (ascending : positions.Pairwise (· ≤ ·)) (previous target : Int) :
    (nearestPosition positions previous target = none ↔
      ∀ p ∈ positions, (p.toNat : Int) ≤ previous) ∧
    ∀ position, nearestPosition positions previous target = some position ↔
      Nearest positions previous target position := by
  have spec := nearestPosition_spec ascending previous target
  cases found : nearestPosition positions previous target with
  | none =>
    rw [found] at spec
    refine ⟨iff_of_true rfl spec, fun position => iff_of_false nofun ?_⟩
    rintro ⟨⟨p, member, rfl⟩, after, -⟩
    exact absurd after (Int.not_lt.mpr (spec p member))
  | some taken =>
    rw [found] at spec
    refine ⟨iff_of_false nofun fun none => ?_, fun position => ?_⟩
    · obtain ⟨p, member, same⟩ := spec.listed
      have earlier := none p member
      have after := spec.after
      omega
    · rw [Option.some.injEq]
      constructor
      · rintro rfl
        exact spec
      · exact spec.eq

/-- Of the positions 3 and 9, both as far from 6, the smaller is found, listed twice as it is. -/
theorem nearest_of_two : [1, 3, 3, 9].Pairwise (fun p q : UInt32 => p ≤ q) ∧
    (nearestPosition [1, 3, 3, 9] 1 6 = some 3 ↔ Nearest [1, 3, 3, 9] 1 6 3) ∧
    nearestPosition [1, 3, 3, 9] 1 6 = some 3 := by
  have ascending : [1, 3, 3, 9].Pairwise (fun p q : UInt32 => p ≤ q) := by decide
  have exact := (nearestPosition_exact ascending 1 6).2 3
  have nearest : Nearest [1, 3, 3, 9] 1 6 3 := by
    refine ⟨⟨3, by decide, rfl⟩, by decide, fun p member _ => ?_⟩
    simp only [List.mem_cons, List.not_mem_nil, or_false] at member
    rcases member with rfl | rfl | rfl | rfl <;> decide
  exact ⟨ascending, exact, exact.mpr nearest⟩

end Relevance.Phrase
