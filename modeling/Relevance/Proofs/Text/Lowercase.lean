import Mathlib.Data.List.Infix
import Mathlib.Data.List.TakeWhile
import Relevance.Text.Lowercase

set_option autoImplicit false

namespace Relevance

/-- The titlecase letters, each a capital letter with a small one in one character. They are not
upper case and have a lower case form. -/
def titlecaseSpans : Spans := [
  (0x1c5, 0x1c5), (0x1c8, 0x1c8), (0x1cb, 0x1cb), (0x1f2, 0x1f2), (0x1f88, 0x1f8f),
  (0x1f98, 0x1f9f), (0x1fa8, 0x1faf), (0x1fbc, 0x1fbc), (0x1fcc, 0x1fcc), (0x1ffc, 0x1ffc)]

def isTitlecase (c : Char) : Bool := titlecaseSpans.has c

variable {c d : Char} {text : List Char}

namespace Spans

/-- Whether a code point lies in one of the ranges. -/
def holds (spans : Spans) (code : Nat) : Bool :=
  spans.any fun span => span.1 ≤ code && code ≤ span.2

theorem has_eq_holds (spans : Spans) (c : Char) : spans.has c = spans.holds c.toNat := rfl

def codes (spans : Spans) : List Nat :=
  spans.flatMap fun span => List.range' span.1 (span.2 + 1 - span.1)

theorem mem_codes {spans : Spans} {code : Nat} (holds : spans.holds code = true) :
    code ∈ spans.codes := by
  obtain ⟨span, member, inside⟩ := List.any_eq_true.mp holds
  rw [Bool.and_eq_true_iff, decide_eq_true_iff, decide_eq_true_iff] at inside
  exact List.mem_flatMap.mpr ⟨span, member, List.mem_range'_1.mpr (by omega)⟩

/-- Whether ascending code points lie in the ranges, each looked for from the range of the one
before it on. -/
def cover (spans : Spans) : List Nat → Bool
  | [] => true
  | code :: codes =>
    match spans.dropWhile fun span => span.2 < code with
    | [] => false
    | span :: later => span.1 ≤ code && cover (span :: later) codes

theorem holds_of_cover {spans : Spans} {codes : List Nat} (covered : spans.cover codes = true) :
    ∀ code ∈ codes, spans.holds code = true := by
  induction codes generalizing spans with
  | nil => nofun
  | cons code codes ih =>
    have reached := List.head?_dropWhile_not (fun span : Nat × Nat => decide (span.2 < code)) spans
    have fewer := (List.dropWhile_sublist (l := spans) fun span => decide (span.2 < code)).subset
    rw [cover] at covered
    split at covered
    · cases covered
    · rename_i span later found
      rw [found] at reached fewer
      simp only [List.head?_cons, decide_eq_false_iff_not, Nat.not_lt] at reached
      rw [Bool.and_eq_true_iff, decide_eq_true_iff] at covered
      rw [List.forall_mem_cons]
      constructor
      · apply List.any_eq_true.mpr
        exact ⟨span, fewer List.mem_cons_self, by simp [covered.1, reached]⟩
      · intro other member
        obtain ⟨wider, inside, holds⟩ := List.any_eq_true.mp (ih covered.2 other member)
        exact List.any_eq_true.mpr ⟨wider, fewer inside, holds⟩

end Spans

namespace CaseRun

variable {run other : CaseRun}

theorem has_iff : run.has c = true ↔
    run.first ≤ c.toNat ∧ c.toNat ≤ run.last ∧ (c.toNat - run.first) % run.stride = 0 := by
  simp only [has, Bool.and_eq_true, decide_eq_true_eq, and_assoc]

def letters (run : CaseRun) : List Nat :=
  List.range' run.first ((run.last - run.first) / run.stride + 1) run.stride

theorem toNat_mem_letters (member : run.has c = true) : c.toNat ∈ run.letters := by
  obtain ⟨above, below, steps⟩ := has_iff.mp member
  have distance := Nat.div_add_mod (c.toNat - run.first) run.stride
  apply List.mem_range'.mpr
  refine ⟨(c.toNat - run.first) / run.stride, ?_, by omega⟩
  exact Nat.lt_succ_of_le (Nat.div_le_div_right (by omega))

/-- The code point of the lower case form of a letter. -/
def target (run : CaseRun) (code : Nat) : Nat :=
  (code + run.shift).toNat

def lands (run : CaseRun) : Bool :=
  0 ≤ run.first + run.shift &&
    (run.target run.last < 0xd800 || 0xdfff < run.target run.first && run.target run.last < 0x110000)

/-- The lower case forms of a run lie before or behind another one, or between its letters. -/
def misses (run other : CaseRun) : Bool :=
  run.target run.last < other.first || other.last < run.target run.first ||
    (run.stride = 2 || run.first = run.last) && other.stride = 2 &&
      (run.target run.first + other.first) % 2 = 1

theorem toNat_target (lands : run.lands = true) (member : run.has c = true) :
    (Char.ofNat (run.target c.toNat)).toNat = run.target c.toNat := by
  obtain ⟨above, below, -⟩ := has_iff.mp member
  have valid : (run.target c.toNat).isValidChar := by
    simp only [CaseRun.lands, Bool.and_eq_true, Bool.or_eq_true, decide_eq_true_eq] at lands
    unfold target at lands
    unfold target Nat.isValidChar
    omega
  rw [Char.ofNat, dif_pos valid]
  rfl

theorem not_has_target (lands : run.lands = true) (misses : run.misses other = true)
    (member : run.has c = true) : other.has (Char.ofNat (run.target c.toNat)) = false := by
  by_contra found
  rw [Bool.not_eq_false, has_iff, toNat_target lands member] at found
  obtain ⟨above, below, steps⟩ := has_iff.mp member
  simp only [CaseRun.lands, CaseRun.misses, Bool.and_eq_true, Bool.or_eq_true,
    decide_eq_true_eq] at lands misses
  unfold target at lands misses found
  obtain ⟨later, earlier, even⟩ := found
  rcases misses with (before | behind) | ⟨⟨single, double⟩, odd⟩
  · omega
  · omega
  · rw [double] at even
    rcases single with double | single
    · rw [double] at steps
      omega
    · omega

end CaseRun

/-- The dotted capital I, whose lower case form has two characters. -/
def dottedRun : CaseRun := ⟨0x130, 0x130, 1, 0⟩

theorem letters_covered : uppercaseSpans.cover
    ((lowercaseRuns.flatMap CaseRun.letters).filter fun code => !titlecaseSpans.holds code) =
      true := by
  decide +kernel

theorem runs_land : lowercaseRuns.all CaseRun.lands = true := by
  decide +kernel

theorem runs_miss :
    lowercaseRuns.all (fun run => (dottedRun :: lowercaseRuns).all run.misses) = true := by
  decide +kernel

/-- The dotted capital I has a form of two small characters, all others one of a single character.
-/
theorem lowercaseForm_cases (c : Char) :
    (c.toNat = 0x130 ∧ lowercaseForm c = ['i', Char.ofNat 0x307]) ∨
    (∃ run ∈ lowercaseRuns, run.has c = true ∧
      lowercaseForm c = [Char.ofNat (run.target c.toNat)]) ∨
    (∀ run ∈ dottedRun :: lowercaseRuns, run.has c = false) ∧ lowercaseForm c = [c] := by
  unfold lowercaseForm
  split
  · rename_i dotted
    exact .inl ⟨dotted, rfl⟩
  · rename_i other
    right
    split
    · rename_i run found
      have has : run.has c = true := List.find?_some (p := fun run => CaseRun.has run c) found
      exact .inl ⟨run, List.mem_of_find?_eq_some found, has, rfl⟩
    · rename_i absent
      refine .inr ⟨List.forall_mem_cons.mpr ⟨?_, ?_⟩, rfl⟩
      · rw [← Bool.not_eq_true, CaseRun.has_iff]
        intro same
        exact other (Nat.le_antisymm same.2.1 same.1)
      · intro run member
        exact eq_false_of_ne_true (List.find?_eq_none.mp absent run member)

theorem lowercaseForm_eq_self (absent : ∀ run ∈ dottedRun :: lowercaseRuns, run.has c = false) :
    lowercaseForm c = [c] := by
  rw [List.forall_mem_cons] at absent
  rcases lowercaseForm_cases c with ⟨dotted, -⟩ | ⟨run, member, has, -⟩ | ⟨-, same⟩
  · have here : dottedRun.has c = true := by
      rw [CaseRun.has_iff, dotted]
      decide
    rw [absent.1] at here
    cases here
  · rw [absent.2 run member] at has
    cases has
  · exact same

/-- What a lower case form consists of is its own lower case form. -/
theorem lowercaseForm_of_mem (member : d ∈ lowercaseForm c) : lowercaseForm d = [d] := by
  have dotted : ∀ d ∈ ['i', Char.ofNat 0x307], lowercaseForm d = [d] := by
    rw [List.forall_mem_cons, List.forall_mem_singleton]
    decide +kernel
  rcases lowercaseForm_cases c with ⟨-, form⟩ | ⟨run, listed, has, form⟩ | ⟨-, form⟩
  · rw [form] at member
    exact dotted d member
  · rw [form, List.mem_singleton] at member
    rw [member]
    apply lowercaseForm_eq_self
    intro other among
    have lands := List.all_eq_true.mp runs_land run listed
    have misses := List.all_eq_true.mp (List.all_eq_true.mp runs_miss run listed) other among
    exact CaseRun.not_has_target lands misses has
  · rw [form, List.mem_singleton] at member
    rwa [member]

/-- A character that has another lower case form than itself is upper case or titlecase. -/
theorem isUppercase_or_isTitlecase (changes : lowercaseForm c ≠ [c]) :
    isUppercase c = true ∨ isTitlecase c = true := by
  rcases lowercaseForm_cases c with ⟨dotted, -⟩ | ⟨run, listed, has, -⟩ | ⟨-, same⟩
  · left
    rw [isUppercase, Spans.has_eq_holds, dotted]
    decide +kernel
  · by_cases title : isTitlecase c = true
    · exact .inr title
    · left
      have letter : c.toNat ∈ lowercaseRuns.flatMap CaseRun.letters :=
        List.mem_flatMap.mpr ⟨run, listed, CaseRun.toNat_mem_letters has⟩
      apply Spans.holds_of_cover letters_covered
      rw [List.mem_filter]
      exact ⟨letter, Bool.not_eq_true' _ ▸ eq_false_of_ne_true title⟩
  · exact absurd same changes

theorem titlecase_apart : titlecaseSpans.codes.all (fun code =>
    !uppercaseSpans.holds code && lowercaseForm (Char.ofNat code) ≠ [Char.ofNat code]) = true := by
  decide +kernel

theorem titlecase_spec (title : isTitlecase c = true) :
    isUppercase c = false ∧ lowercaseForm c ≠ [c] := by
  have apart := List.all_eq_true.mp titlecase_apart c.toNat (Spans.mem_codes title)
  rw [Bool.and_eq_true_iff, Bool.not_eq_true', decide_eq_true_iff, Char.ofNat_toNat] at apart
  exact apart

theorem lowercaseForm_eq_self_iff (other : isUppercase c = false) :
    lowercaseForm c = [c] ↔ isTitlecase c = false := by
  constructor
  · intro same
    by_contra title
    exact (titlecase_spec ((Bool.not_eq_false _).mp title)).2 same
  · intro title
    by_contra changes
    rcases isUppercase_or_isTitlecase changes with upper | found
    · rw [other] at upper
      cases upper
    · rw [title] at found
      cases found

theorem ne_sigma_of_settled (settled : lowercaseForm c = [c]) : c ≠ 'Σ' := by
  rintro rfl
  revert settled
  decide +kernel

/-- Of a character that is no sigma the neighbours do not matter. -/
theorem lowercaseBetween_of_ne {before after : List Char} (other : c ≠ 'Σ') :
    lowercaseBetween before c after = lowercaseForm c :=
  if_neg other

/-- What stands in place of a character is its own lower case form, also what a sigma becomes. -/
theorem lowercaseForm_of_mem_between {before after : List Char}
    (member : d ∈ lowercaseBetween before c after) : lowercaseForm d = [d] := by
  have sigmas : lowercaseForm 'ς' = ['ς'] ∧ lowercaseForm 'σ' = ['σ'] := by decide +kernel
  unfold lowercaseBetween at member
  split at member
  · split at member
    · rw [List.mem_singleton.mp member]
      exact sigmas.1
    · rw [List.mem_singleton.mp member]
      exact sigmas.2
  · exact lowercaseForm_of_mem member

theorem lowercaseForm_of_mem_after {before : List Char} (member : d ∈ lowercaseAfter before text) :
    lowercaseForm d = [d] := by
  induction text generalizing before with
  | nil => cases member
  | cons c rest ih =>
    rw [lowercaseAfter, List.mem_append] at member
    rcases member with here | later
    · exact lowercaseForm_of_mem_between here
    · exact ih later

theorem lowercaseForm_of_mem_lowercase (member : d ∈ lowercase text) : lowercaseForm d = [d] :=
  lowercaseForm_of_mem_after member

theorem lowercase_eq_self (settled : ∀ c ∈ text, lowercaseForm c = [c]) : lowercase text = text := by
  unfold lowercase
  generalize ([] : List Char) = before
  induction text generalizing before with
  | nil => rfl
  | cons c rest ih =>
    rw [List.forall_mem_cons] at settled
    rw [lowercaseAfter, lowercaseBetween_of_ne (ne_sigma_of_settled settled.1), settled.1,
      ih settled.2]
    rfl

/-- Lower case is reached in one go. -/
theorem lowercase_lowercase (text : List Char) : lowercase (lowercase text) = lowercase text :=
  lowercase_eq_self fun _ member => lowercaseForm_of_mem_lowercase member

/-- A text without upper case letters is in lower case unless it has a titlecase letter. -/
theorem lowercase_eq_self_iff (small : ∀ c ∈ text, isUppercase c = false) :
    lowercase text = text ↔ ∀ c ∈ text, isTitlecase c = false := by
  constructor
  · intro same c member
    have settled : lowercaseForm c = [c] := by
      rw [← same] at member
      exact lowercaseForm_of_mem_lowercase member
    exact (lowercaseForm_eq_self_iff (small c member)).mp settled
  · intro none
    apply lowercase_eq_self
    intro c member
    exact (lowercaseForm_eq_self_iff (small c member)).mpr (none c member)

end Relevance
