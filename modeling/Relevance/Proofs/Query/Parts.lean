import Mathlib.Data.List.Basic
import Relevance.Proofs.Text.Runs
import Relevance.Query.Written

set_option autoImplicit false

namespace Relevance.QueryPart

/-- The parts of a numbered segment, in a query with so many quotes. -/
def ofSegment (quotes : Nat) (segment : List Char × Nat) : List QueryPart :=
  if segment.2 % 2 = 1 ∧ segment.2 < quotes then [.phrase segment.1]
  else (runs segment.1).map .word

theorem isWordChar_iff {c : Char} : isWordChar c = true ↔ c ≠ '"' ∧ isBlank c = false := by
  simp [isWordChar]

theorem scan_cons_of_blank {c : Char} (blank : isBlank c = true) (text : List Char) :
    scan (c :: text) = scan text := by
  have other : c ≠ '"' := by
    rintro rfl
    exact absurd blank (by decide)
  rw [scan, if_neg other, if_pos blank]

/-- A run is a word up to the next quote or white space. -/
theorem scan_run {run rest : List Char} (nonempty : run ≠ [])
    (solid : ∀ c ∈ run, isWordChar c = true) (stops : ∀ c ∈ rest.head?, isWordChar c = false) :
    scan (run ++ rest) = .word run :: scan rest := by
  cases run with
  | nil => exact absurd rfl nonempty
  | cons c run =>
    have first := isWordChar_iff.mp (solid c List.mem_cons_self)
    have inside : ∀ d ∈ run, isWordChar d = true :=
      fun d member => solid d (List.mem_cons_of_mem c member)
    have taken : rest.takeWhile isWordChar = [] ∧ rest.dropWhile isWordChar = rest := by
      cases rest with
      | nil => exact ⟨rfl, rfl⟩
      | cons d rest =>
        have stop : ¬ isWordChar d = true := Bool.eq_false_iff.mp (stops d rfl)
        exact ⟨List.takeWhile_cons_of_neg stop, List.dropWhile_cons_of_neg stop⟩
    rw [List.cons_append, scan, if_neg first.1, if_neg (by simp [first.2]),
      List.takeWhile_append_of_pos inside, List.dropWhile_append_of_pos inside, taken.1, taken.2,
      List.append_nil]

/-- Up to the next quote the parts are the runs. -/
theorem scan_append {segment rest : List Char} (unquoted : '"' ∉ segment)
    (quoted : ∀ c ∈ rest.head?, c = '"') :
    scan (segment ++ rest) = (runs segment).map .word ++ scan rest := by
  induction segment using runs_induction with
  | nil => rfl
  | blank c segment blank ih =>
    rw [List.cons_append, scan_cons_of_blank blank, runs_cons_of_blank blank]
    exact ih (List.not_mem_of_not_mem_cons unquoted)
  | run run segment nonempty solid stops ih =>
    rw [List.mem_append, not_or] at unquoted
    have word : ∀ c ∈ run, isWordChar c = true := by
      intro c member
      exact isWordChar_iff.mpr ⟨fun quote => unquoted.1 (quote ▸ member), solid c member⟩
    have edge : ∀ c ∈ (segment ++ rest).head?, isWordChar c = false := by
      intro c first
      cases segment with
      | nil => rw [quoted c first]; rfl
      | cons d segment =>
        cases first
        simp [isWordChar, stops c rfl]
    rw [List.append_assoc, scan_run nonempty word edge, ih unquoted.2,
      runs_append nonempty solid stops]
    rfl

theorem scan_of_unquoted {text : List Char} (unquoted : '"' ∉ text) :
    scan text = (runs text).map .word := by
  have quoted : ∀ c ∈ ([] : List Char).head?, c = '"' := by simp
  have whole := scan_append unquoted quoted
  rw [List.append_nil, scan, List.append_nil] at whole
  exact whole

/-- A quote without a partner is passed over. -/
theorem scan_unclosed {rest : List Char} (unquoted : '"' ∉ rest) :
    scan ('"' :: rest) = scan rest := by
  rw [scan, if_pos rfl, if_neg (by simpa using unquoted)]

/-- Between two quotes stands a phrase. -/
theorem scan_phrase {phrase : List Char} (unquoted : '"' ∉ phrase) (rest : List Char) :
    scan ('"' :: (phrase ++ '"' :: rest)) = .phrase phrase :: scan rest := by
  have inside : ∀ c ∈ phrase, decide (c ≠ '"') = true := by
    intro c member
    exact decide_eq_true fun quote => unquoted (quote ▸ member)
  have closed : (phrase ++ '"' :: rest).contains '"' = true := by simp
  rw [scan, if_pos rfl, if_pos closed, List.takeWhile_append_of_pos inside,
    List.dropWhile_append_of_pos inside, List.takeWhile_cons_of_neg (by decide),
    List.dropWhile_cons_of_neg (by decide), List.append_nil, List.drop_one, List.tail_cons]

/-- Two quotes in front leave odd segments odd. -/
theorem flatMap_ofSegment_succ (quotes : Nat) (segments : List (List Char)) :
    (segments.zipIdx 2).flatMap (ofSegment (quotes + 2)) =
      segments.zipIdx.flatMap (ofSegment quotes) := by
  have shifted : (segments.zipIdx 2) = segments.zipIdx.map (Prod.map id (· + 2)) := by
    rw [List.map_snd_add_zipIdx_eq_zipIdx]
  rw [shifted, List.flatMap_map]
  refine List.flatMap_congr fun segment _ => ?_
  simp only [ofSegment, Prod.map_snd, Prod.map_fst, id, Nat.add_mod_right, Nat.add_lt_add_iff_right]

/-- The parts of a written query are those of its segments. -/
theorem scan_eq_flatMap (text : List Char) :
    scan text = (text.splitOn '"').zipIdx.flatMap (ofSegment (text.count '"')) := by
  by_cases some : '"' ∈ text
  · obtain ⟨segment, tail, rfl, first⟩ := List.eq_append_cons_of_mem some
    rw [scan_append first (by simp), List.splitOn_append_cons_self_of_not_mem first,
      List.count_append, List.count_eq_zero_of_not_mem first, List.count_cons_self]
    by_cases more : '"' ∈ tail
    · obtain ⟨phrase, rest, rfl, second⟩ := List.eq_append_cons_of_mem more
      rw [scan_phrase second, List.splitOn_append_cons_self_of_not_mem second,
        List.count_append, List.count_eq_zero_of_not_mem second, List.count_cons_self,
        scan_eq_flatMap rest, ← flatMap_ofSegment_succ]
      simp [ofSegment]
    · rw [scan_unclosed more, scan_of_unquoted more, List.splitOn_eq_singleton more,
        List.count_eq_zero_of_not_mem more]
      simp [ofSegment]
  · rw [scan_of_unquoted some, List.splitOn_eq_singleton some]
    simp [ofSegment]
  termination_by text.length

/-- Words are not empty and have no quote and no white space in them. -/
theorem isWordChar_of_mem_scan {text word : List Char} (member : .word word ∈ scan text) :
    word ≠ [] ∧ ∀ c ∈ word, isWordChar c = true := by
  fun_induction scan text with
  | case1 => cases member
  | case2 rest closed ih =>
    rcases List.mem_cons.mp member with same | later
    · cases same
    · exact ih later
  | case3 rest unclosed ih => exact ih member
  | case4 c rest other blank ih => exact ih member
  | case5 c rest other solid ih =>
    rcases List.mem_cons.mp member with same | later
    · cases same
      refine ⟨List.cons_ne_nil _ _, List.forall_mem_cons.mpr ⟨?_, ?_⟩⟩
      · exact isWordChar_iff.mpr ⟨other, eq_false_of_ne_true solid⟩
      · exact List.all_eq_true.mp List.all_takeWhile
    · exact ih later

/-- The segments between quotes say what the parts of a written query are: a segment is a phrase as
it stands if an odd number of quotes is in front of it and one more behind it, and else its runs are
words. So an unpaired last quote makes no phrase, and the words of a segment are all of it but white
space. -/
theorem scan_by_segments (text : List Char) :
    scan text = (text.splitOn '"').zipIdx.flatMap (ofSegment (text.count '"')) ∧
    (∀ segment ∈ text.splitOn '"',
      (runs segment).flatten = segment.filter fun c => !isBlank c) ∧
    ∀ word, .word word ∈ scan text → word ≠ [] ∧ ∀ c ∈ word, c ≠ '"' ∧ isBlank c = false := by
  refine ⟨scan_eq_flatMap text, fun segment _ => flatten_runs segment, ?_⟩
  intro word member
  obtain ⟨nonempty, letters⟩ := isWordChar_of_mem_scan member
  exact ⟨nonempty, fun c inside => isWordChar_iff.mp (letters c inside)⟩

/-- The second phrase is empty, and the last quote has no partner. -/
example : scan "ab\"c d\"e\"\" f\"g".toList =
    [.word ['a', 'b'], .phrase ['c', ' ', 'd'], .word ['e'], .phrase [], .word ['f'], .word ['g']] := by
  cbv

end Relevance.QueryPart
