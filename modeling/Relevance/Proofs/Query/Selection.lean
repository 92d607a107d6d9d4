import Mathlib.Data.List.Sort
import Relevance.Proofs.Numeric.Order
import Relevance.Proofs.Query.Ranking

set_option autoImplicit false

namespace Relevance

namespace ScoredDoc

/-- A document is of no smaller score than another and, if of the same, of no larger number. -/
def Precedes (a b : ScoredDoc) : Prop :=
  orderKey b.score < orderKey a.score ∨ orderKey b.score = orderKey a.score ∧ a.doc ≤ b.doc

instance (a b : ScoredDoc) : Decidable (a.Precedes b) :=
  inferInstanceAs (Decidable (_ ∨ _))

variable {a b c : ScoredDoc}

theorem precedes_refl (a : ScoredDoc) : a.Precedes a :=
  Or.inr ⟨rfl, Nat.le_refl a.doc⟩

theorem Precedes.trans (first : a.Precedes b) (second : b.Precedes c) : a.Precedes c := by
  rcases first with higher | ⟨same, before⟩ <;> rcases second with lower | ⟨equal, after⟩
  · exact Or.inl (lower.trans higher)
  · exact Or.inl (equal ▸ higher)
  · exact Or.inl (same ▸ lower)
  · exact Or.inr ⟨equal.trans same, Nat.le_trans before after⟩

theorem precedes_total (a b : ScoredDoc) : a.Precedes b ∨ b.Precedes a := by
  rcases Int.lt_trichotomy (orderKey a.score) (orderKey b.score) with lower | same | higher
  · exact Or.inr (Or.inl lower)
  · rcases Nat.le_total a.doc b.doc with before | after
    · exact Or.inl (Or.inr ⟨same.symm, before⟩)
    · exact Or.inr (Or.inr ⟨same, after⟩)
  · exact Or.inl (Or.inl higher)

/-- Documents that come before each other are one document with one score. -/
theorem Precedes.antisymm (first : a.Precedes b) (second : b.Precedes a) : a = b := by
  have score : orderKey a.score = orderKey b.score := by
    unfold Precedes at first second
    rcases first with higher | ⟨same, -⟩
    · rcases second with lower | ⟨same, -⟩
      · omega
      · exact same
    · exact same.symm
  have doc : a.doc = b.doc := by
    rcases first with higher | ⟨-, before⟩
    · omega
    · rcases second with lower | ⟨-, after⟩
      · omega
      · exact Nat.le_antisymm before after
  cases a
  cases b
  cases doc
  cases orderKey_injective score
  rfl

theorem rank_eq_lt_iff : a.rank b = .lt ↔ ¬ b.Precedes a := by
  rw [rank, Ordering.then_eq_lt, Int.compare_eq_lt, Int.compare_eq_eq, Nat.compare_eq_lt, Precedes,
    not_or, not_and, Int.not_lt, Nat.not_le]
  constructor
  · rintro (higher | ⟨same, before⟩)
    · exact ⟨Int.le_of_lt higher, fun same => absurd same (Int.ne_of_gt higher)⟩
    · exact ⟨Int.le_of_eq same, fun _ => before⟩
  · rintro ⟨higher, before⟩
    rcases Int.lt_or_eq_of_le higher with higher | same
    · exact Or.inl higher
    · exact Or.inr ⟨same, before same.symm⟩

end ScoredDoc

namespace Ranking

/-- No document comes after one that it is better than. -/
def Sorted (ranking : Ranking) : Prop :=
  ranking.Pairwise ScoredDoc.Precedes

def ofHits (hits : List ScoredDoc) : Ranking :=
  hits.mergeSort fun a b => decide (a.Precedes b)

theorem sorted_ofHits (hits : List ScoredDoc) : (ofHits hits).Sorted := by
  have ordered : (ofHits hits).Pairwise fun a b => decide (a.Precedes b) = true := by
    apply List.pairwise_mergeSort
    · intro a b c first second
      exact decide_eq_true ((of_decide_eq_true first).trans (of_decide_eq_true second))
    · intro a b
      rw [Bool.or_eq_true, decide_eq_true_iff, decide_eq_true_iff]
      exact a.precedes_total b
  exact ordered.imp of_decide_eq_true

theorem ofHits_perm (hits : List ScoredDoc) : (ofHits hits).Perm hits :=
  List.mergeSort_perm hits _

/-- There is one way to sort documents. -/
theorem Sorted.eq_ofHits {ranking : Ranking} {hits : List ScoredDoc} (sorted : ranking.Sorted)
    (same : ranking.Perm hits) : ranking = ofHits hits := by
  have unique : ∀ a b, a ∈ ranking → b ∈ ofHits hits → a.Precedes b → b.Precedes a → a = b := by
    intro a b _ _ first second
    exact first.antisymm second
  exact List.Perm.eq_of_pairwise unique sorted (sorted_ofHits hits)
    (same.trans (ofHits_perm hits).symm)

theorem ofHits_eq_of_perm {hits others : List ScoredDoc} (same : hits.Perm others) :
    ofHits hits = ofHits others :=
  (sorted_ofHits hits).eq_ofHits ((ofHits_perm hits).trans same)

variable {ranking : Ranking} {doc worst : ScoredDoc}

theorem sorted_place (sorted : ranking.Sorted) (doc : ScoredDoc) : (place doc ranking).Sorted := by
  induction ranking with
  | nil => exact List.pairwise_singleton _ doc
  | cons first rest ih =>
    have behind : ∀ other ∈ rest, first.Precedes other := (List.pairwise_cons.mp sorted).1
    rw [place]
    split
    · rename_i before
      have ahead : doc.Precedes first :=
        (doc.precedes_total first).resolve_right (ScoredDoc.rank_eq_lt_iff.mp before)
      apply List.Pairwise.cons _ sorted
      intro other member
      rcases List.mem_cons.mp member with rfl | later
      · exact ahead
      · exact ahead.trans (behind other later)
    · rename_i after
      have ahead : first.Precedes doc := by
        by_contra not
        exact after (ScoredDoc.rank_eq_lt_iff.mpr not)
      apply List.Pairwise.cons _ (ih sorted.of_cons)
      intro other member
      rcases List.mem_cons.mp ((place_perm doc rest).mem_iff.mp member) with rfl | later
      · exact ahead
      · exact behind other later

/-- Sorting one more document puts it in its place among the others. -/
theorem ofHits_append_singleton (hits : List ScoredDoc) (doc : ScoredDoc) :
    ofHits (hits ++ [doc]) = place doc (ofHits hits) := by
  have sorted : (place doc (ofHits hits)).Sorted := sorted_place (sorted_ofHits hits) doc
  have same : (place doc (ofHits hits)).Perm (hits ++ [doc]) :=
    ((place_perm doc _).trans ((ofHits_perm hits).cons doc)).trans
      (List.perm_append_singleton doc hits).symm
  exact (sorted.eq_ofHits same).symm

/-- Up to a document that comes after, only what stands before it matters. -/
theorem take_place_of_lt {count : Nat} (last : ranking[count]? = some worst)
    (better : doc.rank worst = .lt) :
    (place doc ranking).take (count + 1) = place doc (ranking.take count) := by
  induction ranking generalizing count with
  | nil => cases last
  | cons first rest ih =>
    cases count with
    | zero =>
      cases last
      rw [place, if_pos better]
      rfl
    | succ count =>
      rw [List.take_succ_cons, place, place]
      split
      · rfl
      · rw [List.take_succ_cons, ih last]

/-- Up to a document that does not come after, nothing changes. -/
theorem Sorted.take_place_of_not_lt (sorted : ranking.Sorted) {count : Nat}
    (last : ranking[count]? = some worst) (worse : doc.rank worst ≠ .lt) :
    (place doc ranking).take (count + 1) = ranking.take (count + 1) := by
  induction ranking generalizing count with
  | nil => cases last
  | cons first rest ih =>
    have ahead : first.Precedes worst := by
      cases count with
      | zero =>
        cases last
        exact worst.precedes_refl
      | succ count =>
        exact List.rel_of_pairwise_cons sorted (List.mem_of_getElem? last)
    have worstAhead : worst.Precedes doc := by
      by_contra not
      exact worse (ScoredDoc.rank_eq_lt_iff.mpr not)
    have after : doc.rank first ≠ .lt := by
      intro before
      exact ScoredDoc.rank_eq_lt_iff.mp before (ahead.trans worstAhead)
    rw [place, if_neg after]
    cases count with
    | zero => rfl
    | succ count =>
      rw [List.take_succ_cons, List.take_succ_cons, ih sorted.of_cons last]

/-- The first `limit` of the sorted documents are all that is needed of them to find the first
`limit` with one more. -/
theorem Sorted.enlist_take (sorted : ranking.Sorted) (limit : Nat) (doc : ScoredDoc) :
    enlist limit doc (ranking.take limit) = (place doc ranking).take limit := by
  unfold enlist
  split
  · rename_i room
    rw [List.length_take] at room
    have short : ranking.length < limit := by omega
    have grown : (place doc ranking).length ≤ limit := by
      rw [(place_perm doc ranking).length_eq]
      exact short
    rw [List.take_of_length_le (Nat.le_of_lt short), List.take_of_length_le grown]
  · rename_i full
    cases limit with
    | zero => rfl
    | succ count =>
      have long : count < ranking.length := by
        rw [List.length_take] at full
        omega
      have last : ranking[count]? = some ranking[count] := List.getElem?_eq_getElem long
      have worst : (ranking.take (count + 1)).getLast? = some ranking[count] := by
        rw [List.getLast?_take, if_neg (Nat.succ_ne_zero count), Nat.add_sub_cancel, last,
          Option.some_or]
      have others : (ranking.take (count + 1)).dropLast = ranking.take count := by
        rw [List.dropLast_eq_take, List.take_take, List.length_take]
        congr 1
        omega
      simp only [worst, others]
      split
      · rename_i better
        exact (take_place_of_lt last better).symm
      · rename_i worse
        exact (sorted.take_place_of_not_lt last worse).symm

end Ranking

/-- A match with its score, if that is a number. -/
def Match.scored? (found : Match) : Option ScoredDoc :=
  match found.score with
  | some score => if score.isNaN then none else some ⟨found.doc, score⟩
  | none => none

namespace Ranking

theorem keep_eq (limit : Nat) (ranking : Ranking) (found : Match) :
    keep limit ranking found =
      match found.scored? with
      | some doc => enlist limit doc ranking
      | none => ranking := by
  unfold keep Match.scored?
  cases found.score with
  | none => rfl
  | some score => cases nan : score.isNaN <;> simp only [nan, Bool.false_eq_true, if_true, if_false]

/-- One more match keeps a ranking the best `limit` of all matches so far. -/
theorem keep_take_ofHits (limit : Nat) (hits : List ScoredDoc) (found : Match) :
    keep limit ((ofHits hits).take limit) found =
      (ofHits (hits ++ found.scored?.toList)).take limit := by
  rw [keep_eq]
  cases found.scored? with
  | none => rw [Option.toList_none, List.append_nil]
  | some doc =>
    rw [Option.toList_some, ofHits_append_singleton]
    exact (sorted_ofHits hits).enlist_take limit doc

theorem foldl_keep (limit : Nat) (found : List Match) (hits : List ScoredDoc) :
    found.foldl (keep limit) ((ofHits hits).take limit) =
      (ofHits (hits ++ found.filterMap Match.scored?)).take limit := by
  induction found generalizing hits with
  | nil => rw [List.foldl_nil, List.filterMap_nil, List.append_nil]
  | cons first rest ih =>
    rw [List.foldl_cons, keep_take_ofHits, ih, List.append_assoc, List.filterMap_cons]
    cases first.scored? <;> rfl

end Ranking

namespace Collector

variable {limit : Nat}

theorem best_of_lt (small : limit < 2 ^ 59) : best limit = .ok (ranking limit) := by
  rw [best, if_pos]
  simp only [ScoredDoc.byteSize, maxBytes]
  omega

theorem best_of_le (large : 2 ^ 59 ≤ limit) : best limit = .error .capacityOverflow := by
  rw [best, if_neg]
  simp only [ScoredDoc.byteSize, maxBytes]
  omega

/-- A ranking that there is memory for keeps the best. -/
theorem eq_ranking_of_best {kept : Collector Ranking} (success : best limit = .ok kept) :
    kept = ranking limit := by
  unfold best at success
  split at success
  · cases success
    rfl
  · cases success

theorem foldl_ranking (limit : Nat) (found : List Match) :
    found.foldl (ranking limit).collect [] =
      (Ranking.ofHits (found.filterMap Match.scored?)).take limit := by
  have empty : (Ranking.ofHits []).take limit = [] := by
    rw [Ranking.ofHits, List.mergeSort_nil, List.take_nil]
  have kept := Ranking.foldl_keep limit found []
  rw [empty, List.nil_append] at kept
  exact kept

/-- A ranking passes over no hit whose score is a number. -/
theorem collectAll_ranking (limit : Nat) {hits : List ScoredDoc}
    (numbers : ∀ hit ∈ hits, hit.score.isNaN = false) :
    (ranking limit).collectAll hits [] = (Ranking.ofHits hits).take limit := by
  have each : ∀ hit ∈ hits,
      (Match.scored? ∘ fun hit : ScoredDoc => ⟨hit.doc, some hit.score⟩) hit = some hit := by
    intro hit member
    change (if hit.score.isNaN then none else some hit) = some hit
    rw [numbers hit member]
    rfl
  have kept := foldl_ranking limit (hits.map fun hit => ⟨hit.doc, some hit.score⟩)
  rw [List.foldl_map, List.filterMap_map, List.filterMap_congr each, List.filterMap_some] at kept
  exact kept

/-- Matches with equal scores, infinite ones, zeros of either sign, one number twice, and two that
are passed over. -/
def mixedMatches : List Match := [
  ⟨5, some 1.0⟩, ⟨8, none⟩, ⟨4, some (-0.0)⟩, ⟨3, some 1.0⟩, ⟨9, some (0.0 / 0.0)⟩,
  ⟨6, some 0.0⟩, ⟨1, some (1.0 / 0.0)⟩, ⟨3, some 1.0⟩, ⟨0, some (-1.0 / 0.0)⟩]

end Collector

end Relevance
