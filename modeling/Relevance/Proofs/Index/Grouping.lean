import Mathlib.Algebra.BigOperators.Group.List.Lemmas
import Mathlib.Algebra.GroupWithZero.Nat
import Relevance.Index.FieldIndex

set_option autoImplicit false

namespace Relevance

/-- Where keys are distinct, looking one up finds whatever is listed under it. -/
theorem mem_iff_lookup_eq_some {α β : Type} [BEq α] [LawfulBEq α] {entries : List (α × β)}
    (distinct : (entries.map Prod.fst).Nodup) {key : α} {value : β} :
    (key, value) ∈ entries ↔ entries.lookup key = some value := by
  induction entries with
  | nil => simp
  | cons entry rest ih =>
    obtain ⟨own, first⟩ := entry
    rw [List.map_cons, List.nodup_cons] at distinct
    rw [List.mem_cons, List.lookup_cons, Prod.mk.injEq]
    by_cases same : key = own
    · subst same
      have outside : (key, value) ∉ rest := fun later =>
        distinct.1 (List.mem_map.mpr ⟨_, later, rfl⟩)
      simp [outside, eq_comm]
    · have differs : (key == own) = false := beq_false_of_ne same
      have later := ih distinct.2
      simp [differs, same, later]

/-- Where keys are distinct, looking one up is not a matter of order. -/
theorem lookup_eq_of_perm {α β : Type} [BEq α] [LawfulBEq α] {entries others : List (α × β)}
    (perm : entries.Perm others) (distinct : (others.map Prod.fst).Nodup) (key : α) :
    entries.lookup key = others.lookup key := by
  have listed : (entries.map Prod.fst).Nodup := (perm.map Prod.fst).nodup_iff.mpr distinct
  refine Option.ext fun value => ?_
  rw [← mem_iff_lookup_eq_some listed, ← mem_iff_lookup_eq_some distinct, perm.mem_iff]

theorem sortPositions_perm (positions : List UInt32) :
    (sortPositions positions).Perm positions :=
  List.mergeSort_perm positions _

theorem sortPositions_ascending (positions : List UInt32) :
    (sortPositions positions).Pairwise (· ≤ ·) := by
  have sorted : (sortPositions positions).Pairwise fun a b => decide (a ≤ b) := by
    apply List.pairwise_mergeSort
    · intro a b c first second
      simp only [decide_eq_true_eq] at first second ⊢
      exact UInt32.le_trans first second
    · intro a b
      simp only [Bool.or_eq_true, decide_eq_true_eq]
      exact UInt32.le_total a b
  exact sorted.imp fun less => by simpa only [decide_eq_true_eq] using less

theorem positionsOf_ascending (term : Term) (tokens : List Token) :
    (positionsOf term tokens).Pairwise (· ≤ ·) :=
  sortPositions_ascending _

theorem mem_positionsOf (term : Term) (tokens : List Token) (position : UInt32) :
    position ∈ positionsOf term tokens ↔ ⟨term, position⟩ ∈ tokens := by
  simp only [positionsOf, (sortPositions_perm _).mem_iff, List.mem_map, List.mem_filter,
    decide_eq_true_eq]
  constructor
  · rintro ⟨⟨_, _⟩, ⟨member, rfl⟩, rfl⟩
    exact member
  · intro member
    exact ⟨⟨term, position⟩, ⟨member, rfl⟩, rfl⟩

theorem length_positionsOf (term : Term) (tokens : List Token) :
    (positionsOf term tokens).length = (tokens.map Token.term).count term := by
  rw [positionsOf, (sortPositions_perm _).length_eq, List.length_map,
    List.count_eq_length_filter, List.filter_map, List.length_map]
  congr 2

theorem positionsOf_eq_nil_iff (term : Term) (tokens : List Token) :
    positionsOf term tokens = [] ↔ term ∉ tokens.map Token.term := by
  rw [← List.length_eq_zero_iff, length_positionsOf, List.count_eq_zero]

theorem map_fst_groupByTerm (tokens : List Token) :
    (groupByTerm tokens).map Prod.fst = (tokens.map Token.term).eraseDups := by
  simp only [groupByTerm, List.map_map, Function.comp_def, List.map_id']

@[simp] theorem mem_map_fst_groupByTerm (term : Term) (tokens : List Token) :
    term ∈ (groupByTerm tokens).map Prod.fst ↔ term ∈ tokens.map Token.term := by
  rw [map_fst_groupByTerm, List.mem_eraseDups]

private theorem lookup_map_self {α : Type} (value : Term → α) (terms : List Term) (term : Term) :
    (terms.map fun term => (term, value term)).lookup term =
      if term ∈ terms then some (value term) else none := by
  induction terms with
  | nil => rfl
  | cons first rest ih =>
    rw [List.map_cons, List.lookup_cons]
    by_cases same : term = first
    · simp [same]
    · have differs : (term == first) = false := beq_false_of_ne same
      simp only [differs, ih, List.mem_cons, same, false_or]

/-- A term's group has its positions; terms that do not occur have no group. -/
theorem lookup_groupByTerm (term : Term) (tokens : List Token) :
    (groupByTerm tokens).lookup term =
      if term ∈ tokens.map Token.term then some (positionsOf term tokens) else none := by
  rw [groupByTerm, lookup_map_self (positionsOf · tokens)]
  simp only [List.mem_eraseDups]

theorem getD_lookup_groupByTerm (term : Term) (tokens : List Token) :
    ((groupByTerm tokens).lookup term).getD [] = positionsOf term tokens := by
  rw [lookup_groupByTerm]
  by_cases occurs : term ∈ tokens.map Token.term
  · simp only [occurs, ↓reduceIte, Option.getD_some]
  · simp only [occurs, ↓reduceIte, Option.getD_none,
      (positionsOf_eq_nil_iff term tokens).mpr occurs]

private theorem nodup_eraseDups (terms : List Term) : terms.eraseDups.Nodup := by
  induction remaining : terms.length using Nat.strongRecOn generalizing terms with
  | ind count ih =>
    cases terms with
    | nil => exact List.nodup_nil
    | cons first rest =>
      have shorter : (rest.filter fun term => !term == first).length < count := by
        have bound := List.length_filter_le (fun term => !term == first) rest
        simp only [List.length_cons] at remaining
        omega
      rw [List.eraseDups_cons, List.nodup_cons]
      refine ⟨?_, ih _ shorter _ rfl⟩
      simp [List.mem_eraseDups]

/-- Each term that occurs has one group. -/
theorem map_fst_groupByTerm_perm (tokens : List Token) :
    ((groupByTerm tokens).map Prod.fst).Perm (tokens.map Token.term).dedup := by
  rw [map_fst_groupByTerm]
  refine (List.perm_ext_iff_of_nodup (nodup_eraseDups _) (List.nodup_dedup _)).mpr ?_
  intro term
  rw [List.mem_eraseDups, List.mem_dedup]

theorem nodup_map_fst_groupByTerm (tokens : List Token) :
    ((groupByTerm tokens).map Prod.fst).Nodup :=
  (map_fst_groupByTerm_perm tokens).nodup_iff.mpr (List.nodup_dedup _)

theorem length_groupByTerm (tokens : List Token) :
    (groupByTerm tokens).length = (tokens.map Token.term).dedup.length := by
  rw [← (map_fst_groupByTerm_perm tokens).length_eq, List.length_map]

theorem length_groupByTerm_le (tokens : List Token) :
    (groupByTerm tokens).length ≤ tokens.length := by
  have shorter := (List.dedup_sublist (tokens.map Token.term)).length_le
  rwa [← length_groupByTerm, List.length_map] at shorter

theorem FieldIndex.tokenTotal_eq_sum (groups : List TermPositions) :
    tokenTotal groups = (groups.map fun group => group.2.length).sum := by
  rw [tokenTotal, List.sum_eq_foldl, List.foldl_map]

/-- Grouping loses no token and invents none. -/
theorem tokenTotal_groupByTerm (tokens : List Token) :
    FieldIndex.tokenTotal (groupByTerm tokens) = tokens.length := by
  calc FieldIndex.tokenTotal (groupByTerm tokens)
      = (((groupByTerm tokens).map Prod.fst).map fun term =>
          (tokens.map Token.term).count term).sum := by
        simp only [FieldIndex.tokenTotal_eq_sum, groupByTerm, List.map_map, Function.comp_def,
          length_positionsOf]
    _ = ((tokens.map Token.term).dedup.map fun term =>
          (tokens.map Token.term).count term).sum :=
        ((map_fst_groupByTerm_perm tokens).map _).sum_eq
    _ = tokens.length := by rw [List.sum_map_count_dedup_eq_length, List.length_map]

end Relevance
