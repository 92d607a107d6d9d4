import Mathlib.Algebra.GroupWithZero.Nat
import Relevance.Proofs.Analysis.Positions
import Relevance.Proofs.Fault
import Relevance.Query.Written

set_option autoImplicit false

namespace Relevance

namespace QueryPart

@[simp] theorem text_word (text : List Char) : (word text).text = text := rfl

@[simp] theorem text_phrase (text : List Char) : (phrase text).text = text := rfl

/-- The tokens of a part, if its words can be numbered. -/
def tokens (analyzer : Analyzer) (part : QueryPart) : List Token :=
  analyzer.tokens part.text

theorem length_tokens_le (analyzer : Analyzer) (part : QueryPart) :
    (part.tokens analyzer).length ≤ part.text.length :=
  (analyzer.length_tokens_le part.text).trans (length_words_le part.text)

theorem length_takeWhile_add_dropWhile (p : Char → Bool) (text : List Char) :
    (text.takeWhile p).length + (text.dropWhile p).length = text.length := by
  rw [← List.length_append, List.takeWhile_append_dropWhile]

/-- The parts of a written query are made of its characters. -/
theorem sum_length_text_le (text : List Char) :
    ((scan text).map fun part => part.text.length).sum ≤ text.length := by
  fun_induction scan text with
  | case1 => exact Nat.le_refl 0
  | case2 rest closed ih =>
    have whole := length_takeWhile_add_dropWhile (· ≠ '"') rest
    rw [List.length_drop] at ih
    simp only [List.map_cons, List.sum_cons, List.length_cons, text_phrase]
    omega
  | case3 rest unclosed ih => exact ih.trans (Nat.le_succ _)
  | case4 c rest other blank ih => exact ih.trans (Nat.le_succ _)
  | case5 c rest other letter ih =>
    have whole := length_takeWhile_add_dropWhile isWordChar rest
    simp only [List.map_cons, List.sum_cons, List.length_cons, text_word]
    omega

theorem length_text_le {text : List Char} {part : QueryPart} (scanned : part ∈ scan text) :
    part.text.length ≤ text.length :=
  (List.le_sum_of_mem (List.mem_map_of_mem scanned)).trans (sum_length_text_le text)

end QueryPart

namespace Query

/-- The words of every part of a written query can be numbered. -/
def Readable (text : String) : Prop :=
  ∀ part ∈ QueryPart.scan text.toList, Enumerable part.text

def asked (text : String) (fields : List String) (analyzer : Analyzer) : Query :=
  .any ((QueryPart.scan text.toList).flatMap fun part =>
    ofPart (fields.map SearchField.read) (part.tokens analyzer) part)

variable {text : String} (fields : List String) (analyzer : Analyzer)

theorem ofText_of_readable (readable : Readable text) :
    ofText text fields analyzer = .ok (asked text fields analyzer) := by
  have each : ∀ part ∈ QueryPart.scan text.toList, (do
      return ofPart (fields.map SearchField.read) (← analyzer.analyze part.text) part) =
        .ok (ofPart (fields.map SearchField.read) (part.tokens analyzer) part) := by
    intro part scanned
    rw [Analyzer.analyze_of_enumerable (readable part scanned)]
    rfl
  rw [ofText, Fault.mapM_eq_ok each, asked, List.flatMap]
  rfl

theorem ofText_of_not_readable (long : ¬ Readable text) :
    ofText text fields analyzer = .error .additionOverflow := by
  simp only [Readable, not_forall] at long
  obtain ⟨part, scanned, long⟩ := long
  rw [ofText]
  cases read : (QueryPart.scan text.toList).mapM fun part => do
      return ofPart (fields.map SearchField.read) (← analyzer.analyze part.text) part with
  | error reason =>
    obtain ⟨other, -, failed⟩ := Fault.mapM_eq_error read
    by_cases enumerable : Enumerable other.text
    · rw [Analyzer.analyze_of_enumerable enumerable] at failed
      cases failed
    · rw [Analyzer.analyze_of_not_enumerable enumerable] at failed
      cases failed
      rfl
  | ok queries =>
    obtain ⟨own, success⟩ := Fault.exists_of_mem_of_mapM_eq_ok read scanned
    rw [Analyzer.analyze_of_not_enumerable long] at success
    cases success

/-- A written query that is not too long is read. -/
theorem readable_of_length {bound : Nat} (brief : text.length ≤ bound)
    (small : bound + 2 < UInt32.size) : Readable text := by
  intro part scanned
  rw [← String.length_toList] at brief
  exact enumerable_of_length ((QueryPart.length_text_le scanned).trans brief) small

end Query

end Relevance
