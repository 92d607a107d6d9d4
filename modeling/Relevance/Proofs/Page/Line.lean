import Mathlib.Data.List.Chain
import Mathlib.Data.List.Infix
import Mathlib.Data.List.TakeWhile
import Relevance.Page.Markup
import Relevance.Proofs.Text.Runs

set_option autoImplicit false

namespace Relevance.Markup

theorem trimBlank_eq {front middle back : List Char} (blankFront : ∀ c ∈ front, isBlank c = true)
    (blankBack : ∀ c ∈ back, isBlank c = true)
    (first : ∀ c ∈ middle.head?, isBlank c = false)
    (last : ∀ c ∈ middle.getLast?, isBlank c = false) :
    trimBlank (front ++ middle ++ back) = middle := by
  have dropped {text : List Char} (solid : ∀ c ∈ text.head?, isBlank c = false)
      (nonempty : text ≠ []) (more : List Char) :
      (text ++ more).dropWhile isBlank = text ++ more := by
    obtain ⟨c, text, rfl⟩ := List.exists_cons_of_ne_nil nonempty
    exact List.dropWhile_cons_of_neg (ne_true_of_eq_false (solid c rfl))
  have backwards : ∀ c ∈ back.reverse, isBlank c = true :=
    fun c member => blankBack c (List.mem_reverse.mp member)
  rw [trimBlank, List.append_assoc, List.dropWhile_append_of_pos blankFront]
  by_cases empty : middle = []
  · rw [empty, List.nil_append, List.dropWhile_eq_nil_iff.mpr blankBack]
    rfl
  · rw [dropped first empty, List.reverse_append, List.dropWhile_append_of_pos backwards,
      ← List.append_nil middle.reverse, dropped _ _, List.append_nil, List.reverse_reverse]
    · rwa [List.head?_reverse]
    · rwa [ne_eq, List.reverse_eq_nil_iff]

theorem collapseFrom_append {run : List Char} (solid : ∀ c ∈ run, isBlank c = false)
    (rest : List Char) : collapseFrom false (run ++ rest) = run ++ collapseFrom false rest := by
  induction run with
  | nil => rfl
  | cons c run ih =>
    rw [List.forall_mem_cons] at solid
    rw [List.cons_append, collapseFrom, if_neg (ne_true_of_eq_false solid.1), ih solid.2]
    rfl

theorem collapseFrom_of_solid {text : List Char} (solid : ∀ c ∈ text.head?, isBlank c = false)
    (inBlank : Bool) : collapseFrom inBlank text = collapseFrom false text := by
  cases text with
  | nil => rfl
  | cons c text =>
    have solid := ne_true_of_eq_false (solid c rfl)
    rw [collapseFrom, collapseFrom, if_neg solid, if_neg solid]

theorem collapseFrom_of_blank {text : List Char} (blank : StopsRun text) (nonempty : text ≠ []) :
    collapseFrom false text = ' ' :: collapseFrom true text := by
  obtain ⟨c, text, rfl⟩ := List.exists_cons_of_ne_nil nonempty
  have blank : isBlank c = true := blank c rfl
  rw [collapseFrom, collapseFrom, if_pos blank, if_pos blank]
  rfl

/-- Behind white space the runs follow each other at single blanks, with at most one at the end. -/
theorem exists_collapseFrom_eq (text : List Char) : ∃ tail, (∀ c ∈ tail, isBlank c = true) ∧
    (runs text = [] → tail = []) ∧
    collapseFrom true text = [' '].intercalate (runs text) ++ tail := by
  induction text using runs_induction with
  | nil => exact ⟨[], nofun, fun _ => rfl, rfl⟩
  | blank c rest blank ih =>
    rw [runs_cons_of_blank blank, collapseFrom, if_pos blank]
    exact ih
  | run run rest nonempty solid stops ih =>
    obtain ⟨tail, blankTail, absent, same⟩ := ih
    rw [runs_append nonempty solid stops]
    have started : collapseFrom true (run ++ rest) = run ++ collapseFrom false rest := by
      rw [collapseFrom_of_solid, collapseFrom_append solid]
      intro c first
      rw [List.head?_append_of_ne_nil _ nonempty] at first
      exact solid c (List.mem_of_mem_head? first)
    rw [started]
    by_cases empty : rest = []
    · subst empty
      refine ⟨[], nofun, fun _ => rfl, ?_⟩
      rw [runs_nil, List.intercalate_singleton]
      rfl
    · rw [collapseFrom_of_blank stops empty, same]
      cases others : runs rest with
      | nil =>
        rw [absent others]
        refine ⟨[' '], List.forall_mem_singleton.mpr rfl, nofun, ?_⟩
        rw [List.intercalate_singleton]
        rfl
      | cons other others =>
        refine ⟨tail, blankTail, nofun, ?_⟩
        rw [List.intercalate_cons_cons, List.append_assoc, List.append_assoc]
        rfl

/-- A text without white space at its ends, and with single blanks only between other characters. -/
structure Normalised (text : List Char) : Prop where
  first : ∀ c ∈ text.head?, isBlank c = false
  last : ∀ c ∈ text.getLast?, isBlank c = false
  single : ∀ c ∈ text, isBlank c = true → c = ' '
  apart : text.IsChain fun c d => isBlank c = true → isBlank d = false

theorem normalised_of_solid {run : List Char} (solid : ∀ c ∈ run, isBlank c = false) :
    Normalised run where
  first := fun c begins => solid c (List.mem_of_mem_head? begins)
  last := fun c ends => solid c (List.mem_of_mem_getLast? ends)
  single := fun c member blank => by
    rw [solid c member] at blank
    cases blank
  apart := by
    apply List.Pairwise.isChain
    apply List.pairwise_of_forall_mem_list
    intro c _ d member _
    exact solid d member

/-- A run and a blank may stand in front of a normalised text that is not empty. -/
theorem Normalised.glue {run rest : List Char} (nonempty : run ≠ [])
    (solid : ∀ c ∈ run, isBlank c = false) (normalised : Normalised rest) (more : rest ≠ []) :
    Normalised (run ++ ' ' :: rest) := by
  have front := normalised_of_solid solid
  refine ⟨?_, ?_, ?_, ?_⟩
  · rw [List.head?_append_of_ne_nil _ nonempty]
    exact front.first
  · rw [List.getLast?_append_of_ne_nil _ (List.cons_ne_nil _ _), List.getLast?_cons_of_ne_nil more]
    exact normalised.last
  · rw [List.forall_mem_append, List.forall_mem_cons]
    exact ⟨front.single, fun _ => rfl, normalised.single⟩
  · rw [List.isChain_append, List.isChain_cons]
    refine ⟨front.apart, ⟨fun d begins _ => normalised.first d begins, normalised.apart⟩, ?_⟩
    intro c ends _ _ blank
    rw [front.last c ends] at blank
    cases blank

theorem normalised_intercalate {pieces : List (List Char)}
    (each : ∀ run ∈ pieces, run ≠ [] ∧ ∀ c ∈ run, isBlank c = false) :
    Normalised ([' '].intercalate pieces) ∧ (pieces ≠ [] → [' '].intercalate pieces ≠ []) := by
  induction pieces with
  | nil => exact ⟨normalised_of_solid nofun, fun absent => absurd rfl absent⟩
  | cons run pieces ih =>
    rw [List.forall_mem_cons] at each
    obtain ⟨⟨nonempty, solid⟩, each⟩ := each
    cases pieces with
    | nil =>
      rw [List.intercalate_singleton]
      exact ⟨normalised_of_solid solid, fun _ => nonempty⟩
    | cons other others =>
      obtain ⟨normalised, present⟩ := ih each
      rw [List.intercalate_cons_cons, List.append_assoc]
      exact ⟨.glue nonempty solid normalised (present (List.cons_ne_nil _ _)),
        fun _ => List.append_ne_nil_of_left_ne_nil nonempty _⟩

/-- On one line the runs of a text follow each other at single blanks. -/
theorem collapseBlanks_eq (text : List Char) :
    collapseBlanks text = [' '].intercalate (runs text) := by
  obtain ⟨tail, blankTail, -, same⟩ := exists_collapseFrom_eq text
  obtain ⟨normalised, -⟩ :=
    normalised_intercalate fun run (member : run ∈ runs text) => runs_spec member
  have started : ∃ front, (∀ c ∈ front, isBlank c = true) ∧
      collapseFrom false text = front ++ collapseFrom true text := by
    cases text with
    | nil => exact ⟨[], nofun, rfl⟩
    | cons c text =>
      cases blank : isBlank c with
      | true =>
        have stops : StopsRun (c :: text) := by
          rintro d ⟨⟩
          exact blank
        exact ⟨[' '], List.forall_mem_singleton.mpr rfl,
          collapseFrom_of_blank stops (List.cons_ne_nil c text)⟩
      | false =>
        have solid : ∀ d ∈ (c :: text).head?, isBlank d = false := by
          rintro d ⟨⟩
          exact blank
        exact ⟨[], nofun, (collapseFrom_of_solid solid true).symm⟩
  obtain ⟨front, blankFront, started⟩ := started
  rw [collapseBlanks, started, same, ← List.append_assoc]
  exact trimBlank_eq blankFront blankTail normalised.first normalised.last

theorem collapseFrom_of_normalised {text : List Char}
    (single : ∀ c ∈ text, isBlank c = true → c = ' ')
    (apart : text.IsChain fun c d => isBlank c = true → isBlank d = false) :
    collapseFrom false text = text := by
  induction text with
  | nil => rfl
  | cons c text ih =>
    rw [List.forall_mem_cons] at single
    rw [List.isChain_cons] at apart
    have ih := ih single.2 apart.2
    rw [collapseFrom]
    by_cases blank : isBlank c = true
    · have next : ∀ d ∈ text.head?, isBlank d = false := fun d begins => apart.1 d begins blank
      rw [if_pos blank, if_neg Bool.false_ne_true, collapseFrom_of_solid next, ih, single.1 blank]
    · rw [if_neg blank, ih]

theorem normalised_collapseBlanks (text : List Char) : Normalised (collapseBlanks text) := by
  rw [collapseBlanks_eq]
  exact (normalised_intercalate fun run member => runs_spec member).1

/-- Exactly the normalised texts stay as they are. -/
theorem collapseBlanks_eq_self_iff (text : List Char) :
    collapseBlanks text = text ↔ Normalised text := by
  constructor
  · intro same
    rw [← same]
    exact normalised_collapseBlanks text
  · intro normalised
    have kept : trimBlank ([] ++ text ++ []) = text :=
      trimBlank_eq nofun nofun normalised.first normalised.last
    rw [List.nil_append, List.append_nil] at kept
    rw [collapseBlanks, collapseFrom_of_normalised normalised.single normalised.apart, kept]

instance (text : List Char) : Decidable (Normalised text) :=
  decidable_of_iff _ (collapseBlanks_eq_self_iff text)

end Relevance.Markup
