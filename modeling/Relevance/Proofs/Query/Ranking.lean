import Mathlib.Data.List.Perm.Subperm
import Relevance.Proofs.Query.Searching

set_option autoImplicit false

namespace Relevance

namespace Ranking

/-- Putting a hit in its place adds that hit and nothing else. -/
theorem place_perm (hit : ScoredDoc) (ranking : Ranking) :
    (place hit ranking).Perm (hit :: ranking) := by
  induction ranking with
  | nil => exact .refl _
  | cons first rest ih =>
    rw [place]
    split
    · exact .refl _
    · exact (ih.cons first).trans (.swap hit first rest)

theorem enlist_subperm (limit : Nat) (hit : ScoredDoc) (ranking : Ranking) :
    (enlist limit hit ranking).Subperm (ranking ++ [hit]) := by
  have kept : ranking.Subperm (ranking ++ [hit]) :=
    (List.sublist_append_left ranking [hit]).subperm
  have placed : ∀ others : Ranking, others.Sublist ranking →
      (place hit others).Subperm (ranking ++ [hit]) := by
    intro others part
    refine ((place_perm hit others).trans
      (List.perm_append_singleton hit others).symm).subperm.trans ?_
    exact (part.append_right [hit]).subperm
  unfold enlist
  split
  · exact placed ranking (List.Sublist.refl ranking)
  · split
    · split
      · exact placed ranking.dropLast (List.dropLast_sublist ranking)
      · exact kept
    · exact kept

theorem keep_subperm (limit : Nat) (ranking : Ranking) (hit : ScoredDoc) :
    (keep limit ranking ⟨hit.doc, some hit.score⟩).Subperm (ranking ++ [hit]) := by
  simp only [keep]
  split
  · exact (List.sublist_append_left ranking [hit]).subperm
  · exact enlist_subperm limit hit ranking

end Ranking

namespace Collector

/-- The best hits are some of those that there were and of those that are handed over. -/
theorem collectAll_ranking_subperm (limit : Nat) (hits : List ScoredDoc) (kept : Ranking) :
    ((ranking limit).collectAll hits kept).Subperm (kept ++ hits) := by
  induction hits generalizing kept with
  | nil => exact (List.append_nil kept).symm ▸ .refl _
  | cons hit rest ih =>
    rw [collectAll, List.foldl_cons, ← collectAll, List.append_cons]
    refine (ih _).trans ((List.subperm_append_right rest).mpr ?_)
    exact Ranking.keep_subperm limit kept hit

/-- Counting and ranking go side by side. -/
theorem collectAll_count_both_ranking (limit : Nat) (hits : List ScoredDoc) (total : Nat)
    (kept : Ranking) : (count.both (ranking limit)).collectAll hits (total, kept) =
      (total + hits.length, (ranking limit).collectAll hits kept) := by
  induction hits generalizing total kept with
  | nil => rfl
  | cons hit rest ih =>
    rw [collectAll, List.foldl_cons, ← collectAll, List.length_cons, Nat.add_comm rest.length,
      ← Nat.add_assoc]
    exact ih (total + 1) _

end Collector

end Relevance
