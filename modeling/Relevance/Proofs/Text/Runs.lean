import Relevance.Text.Blank

set_option autoImplicit false

namespace Relevance

/-- A text is parted at the first character that a test stops at. -/
theorem span_append {holds : Char → Bool} {front rest : List Char}
    (all : ∀ c ∈ front, holds c = true) (stops : ∀ c ∈ rest.head?, holds c = false) :
    (front ++ rest).takeWhile holds = front ∧ (front ++ rest).dropWhile holds = rest := by
  rw [List.takeWhile_append_of_pos all, List.dropWhile_append_of_pos all]
  cases rest with
  | nil => exact ⟨List.append_nil front, rfl⟩
  | cons c rest =>
    have stop : ¬ holds c = true := ne_true_of_eq_false (stops c rfl)
    rw [List.takeWhile_cons_of_neg stop, List.dropWhile_cons_of_neg stop, List.append_nil]
    exact ⟨rfl, rfl⟩

/-- The longest stretches of a text without white space. -/
def runs (text : List Char) : List (List Char) :=
  (text.splitOnP isBlank).filter (· ≠ [])

/-- A text in which no run goes on: it is empty or starts with white space. -/
def StopsRun (text : List Char) : Prop :=
  ∀ c ∈ text.head?, isBlank c = true

@[simp] theorem runs_nil : runs [] = [] := rfl

theorem runs_cons_of_blank {c : Char} (blank : isBlank c = true) (text : List Char) :
    runs (c :: text) = runs text := by
  rw [runs, List.splitOnP_cons_eq_if_modifyHead, if_pos blank]
  rfl

theorem runs_append {run rest : List Char} (nonempty : run ≠ [])
    (solid : ∀ c ∈ run, isBlank c = false) (stops : StopsRun rest) :
    runs (run ++ rest) = run :: runs rest := by
  have kept (pieces : List (List Char)) :
      (run :: pieces).filter (· ≠ []) = run :: pieces.filter (· ≠ []) :=
    List.filter_cons_of_pos (decide_eq_true nonempty)
  cases rest with
  | nil => rw [List.append_nil, runs, List.splitOnP_eq_singleton solid, kept, List.filter_nil, runs_nil]
  | cons c rest =>
    have blank : isBlank c = true := stops c rfl
    rw [runs_cons_of_blank blank, runs,
      List.splitOnP_append_cons_of_forall_mem solid c blank, kept, runs]

theorem stopsRun_dropWhile (text : List Char) :
    StopsRun (text.dropWhile fun c => !isBlank c) := by
  intro c first
  have stopped := List.head?_dropWhile_not (fun c => !isBlank c) text
  rw [Option.mem_def.mp first] at stopped
  simpa using stopped

/-- A text is empty, or starts with white space, or with a whole run. -/
theorem runs_induction {motive : List Char → Prop} (nil : motive [])
    (blank : ∀ c rest, isBlank c = true → motive rest → motive (c :: rest))
    (run : ∀ run rest, run ≠ [] → (∀ c ∈ run, isBlank c = false) → StopsRun rest →
      motive rest → motive (run ++ rest)) : ∀ text, motive text
  | [] => nil
  | c :: text => by
    by_cases blankFirst : isBlank c = true
    · exact blank c text blankFirst (runs_induction nil blank run text)
    · rw [← List.takeWhile_append_dropWhile (p := fun c => !isBlank c) (l := text),
        ← List.cons_append]
      apply run _ _ (List.cons_ne_nil _ _)
      · intro d member
        rcases List.mem_cons.mp member with rfl | taken
        · exact eq_false_of_ne_true blankFirst
        · have held := List.all_takeWhile (p := fun c => !isBlank c) (l := text)
          simpa using List.all_eq_true.mp held d taken
      · exact stopsRun_dropWhile text
      · exact runs_induction nil blank run _
  termination_by text => text.length
  decreasing_by
  · exact Nat.lt_succ_self _
  · exact Nat.lt_succ_of_le (List.dropWhile_sublist _).length_le

theorem runs_spec {text run : List Char} (member : run ∈ runs text) :
    run ≠ [] ∧ ∀ c ∈ run, isBlank c = false := by
  induction text using runs_induction with
  | nil => cases member
  | blank c rest blank ih =>
    rw [runs_cons_of_blank blank] at member
    exact ih member
  | run first rest nonempty solid stops ih =>
    rw [runs_append nonempty solid stops, List.mem_cons] at member
    rcases member with rfl | later
    · exact ⟨nonempty, solid⟩
    · exact ih later

/-- No character is lost but white space. -/
theorem flatten_runs (text : List Char) : (runs text).flatten = text.filter fun c => !isBlank c := by
  induction text using runs_induction with
  | nil => rfl
  | blank c rest blank ih => rw [runs_cons_of_blank blank, ih, List.filter_cons_of_neg (by simp [blank])]
  | run first rest nonempty solid stops ih =>
    have kept : first.filter (fun c => !isBlank c) = first := by
      apply List.filter_eq_self.mpr
      intro c member
      simp [solid c member]
    rw [runs_append nonempty solid stops, List.flatten_cons, ih, List.filter_append, kept]

end Relevance
