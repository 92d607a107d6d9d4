import Mathlib.Algebra.Order.BigOperators.Group.List
import Mathlib.Algebra.Order.Group.Nat
import Relevance.Analysis.Analyzer

set_option autoImplicit false

namespace Relevance

theorem TokenFilter.positions_sublist (filter : TokenFilter) (tokens : List Token) :
    ((filter.apply tokens).map Token.position).Sublist (tokens.map Token.position) := by
  cases filter with
  | lowercase =>
    rw [apply, List.map_map]
    exact .refl _
  | englishStop => exact List.filter_sublist.map _

/-- A text has no more words than characters. -/
theorem length_words_le (text : List Char) : (words text).length ≤ text.length := by
  have shorter : ((words text).map List.length).sum ≤ text.length := by
    have part : (words text).Sublist (Words.segments text) := List.filter_sublist
    have sums := (part.map List.length).sum_le_sum fun _ _ => Nat.zero_le _
    rwa [← List.length_flatten, ← List.length_flatten, Words.flatten_segments,
      List.length_flatten] at sums
  have nonempty : ∀ length ∈ (words text).map List.length, 1 ≤ length := by
    intro length member
    obtain ⟨word, split, rfl⟩ := List.mem_map.mp member
    obtain ⟨_, meant⟩ := List.mem_filter.mp split
    obtain ⟨letter, inside, _⟩ := List.any_eq_true.mp meant
    exact List.length_pos_of_mem inside
  have counted := List.length_le_sum_of_one_le _ nonempty
  rw [List.length_map] at counted
  exact counted.trans shorter

theorem length_numbered (words : List (List Char)) : (numbered words).length = words.length := by
  rw [numbered, List.length_map, List.length_zipIdx]

/-- The position of a token is at most the number of words. -/
theorem position_le_of_mem_numbered {words : List (List Char)} {token : Token}
    (member : token ∈ numbered words) : token.position.toNat ≤ words.length := by
  obtain ⟨⟨word, number⟩, counted, rfl⟩ := List.mem_map.mp member
  have below : number < 1 + words.length := by
    have last := List.snd_lt_add_of_mem_zipIdx counted
    omega
  have wrapped : (UInt32.ofNat number).toNat ≤ number := by
    rw [UInt32.toNat_ofNat']
    exact Nat.mod_le _ _
  exact Nat.le_trans wrapped (by omega)

/-- Words are numbered one after another. -/
theorem map_position_numbered (words : List (List Char)) : (numbered words).map Token.position =
    (List.range' 1 words.length).map UInt32.ofNat := by
  rw [numbered, List.map_map, ← List.zipIdx_map_snd 1 words, List.map_map]
  rfl

section
variable {text : List Char} (enumerable : Enumerable text)
include enumerable

theorem toNat_number {number : Nat} (listed : number ∈ List.range' 1 (words text).length) :
    (UInt32.ofNat number).toNat = number := by
  have bounds := List.mem_range'_1.mp listed
  have short : (words text).length + 2 < UInt32.size := enumerable
  apply UInt32.toNat_ofNat_of_lt
  omega

theorem numbered_increasing : ((numbered (words text)).map Token.position).Pairwise (· < ·) := by
  rw [map_position_numbered, List.pairwise_map]
  refine List.Pairwise.imp_of_mem ?_ List.pairwise_lt_range'
  intro number other listed further less
  rw [UInt32.lt_iff_toNat_lt, toNat_number enumerable listed, toNat_number enumerable further]
  exact less

theorem one_le_position_numbered :
    ∀ position ∈ (numbered (words text)).map Token.position, 1 ≤ position := by
  rw [map_position_numbered, List.forall_mem_map]
  intro number listed
  rw [UInt32.le_iff_toNat_le, toNat_number enumerable listed]
  exact (List.mem_range'_1.mp listed).1

end

/-- A text that is not too long can be numbered. -/
theorem enumerable_of_length {text : List Char} {bound : Nat} (short : text.length ≤ bound)
    (small : bound + 2 < UInt32.size) : Enumerable text :=
  Nat.lt_of_le_of_lt (Nat.add_le_add_right ((length_words_le text).trans short) 2) small

namespace Analyzer

variable (analyzer : Analyzer) {text : List Char}

/-- The tokens of a text, if its words can be numbered. -/
def tokens (analyzer : Analyzer) (text : List Char) : List Token :=
  analyzer.filter (numbered (words text))

variable {analyzer} in
theorem analyze_of_enumerable (enumerable : Enumerable text) :
    analyzer.analyze text = .ok (analyzer.tokens text) := by
  rw [analyze, tokenize, if_pos enumerable]
  rfl

variable {analyzer} in
theorem analyze_of_not_enumerable (long : ¬ Enumerable text) :
    analyzer.analyze text = .error .additionOverflow := by
  rw [analyze, tokenize, if_neg long]
  rfl

theorem positions_sublist (text : List Char) :
    ((analyzer.tokens text).map Token.position).Sublist
      ((numbered (words text)).map Token.position) := by
  unfold tokens filter
  generalize numbered (words text) = tokens
  induction analyzer.filters generalizing tokens with
  | nil => exact .refl _
  | cons filter rest ih => exact (ih (filter.apply tokens)).trans (filter.positions_sublist tokens)

/-- A text has no more tokens than words. -/
theorem length_tokens_le (text : List Char) :
    (analyzer.tokens text).length ≤ (words text).length := by
  have shorter := (analyzer.positions_sublist text).length_le
  rwa [List.length_map, List.length_map, length_numbered] at shorter

theorem position_le_of_mem_tokens {token : Token} (member : token ∈ analyzer.tokens text) :
    token.position.toNat ≤ (words text).length := by
  obtain ⟨origin, split, same⟩ := List.mem_map.mp
    ((analyzer.positions_sublist text).subset (List.mem_map_of_mem member))
  rw [← same]
  exact position_le_of_mem_numbered split

/-- All that is left is numbered in ascending order, from one on. -/
theorem tokens_increasing (enumerable : Enumerable text) :
    ((analyzer.tokens text).map Token.position).Pairwise (· < ·) ∧
      ∀ position ∈ (analyzer.tokens text).map Token.position, 1 ≤ position := by
  have among := analyzer.positions_sublist text
  refine ⟨(numbered_increasing enumerable).sublist among, ?_⟩
  intro position member
  exact one_le_position_numbered enumerable position (among.mem member)

/-- The standard tokens are the words in lower case that are no stop words. -/
theorem tokens_standard (text : List Char) : standard.tokens text =
    (((words text).zipIdx 1).map fun word =>
      ⟨(Term.ofText word.1).lowercase, .ofNat word.2⟩).filter (!·.term.isStopWord) := by
  change ((numbered (words text)).map _).filter _ = _
  rw [numbered, List.map_map]
  rfl

/-- Stop words between two others leave a gap. -/
theorem tokens_of_stops {text : List Char} {first last : List Char}
    {stops : List (List Char)} (cut : words text = first :: stops ++ [last])
    (all : ∀ word ∈ stops, (Term.ofText word).lowercase.isStopWord = true)
    (one : (Term.ofText first).lowercase.isStopWord = false)
    (other : (Term.ofText last).lowercase.isStopWord = false) :
    standard.tokens text = [⟨(Term.ofText first).lowercase, 1⟩,
      ⟨(Term.ofText last).lowercase, .ofNat (stops.length + 2)⟩] := by
  have dropped : (((stops.zipIdx 2).map fun word : List Char × Nat =>
      (⟨(Term.ofText word.1).lowercase, .ofNat word.2⟩ : Token)).filter
        (!·.term.isStopWord)) = [] := by
    rw [List.filter_eq_nil_iff, List.forall_mem_map]
    intro word counted
    simp [all word.1 (List.fst_mem_of_mem_zipIdx counted)]
  rw [tokens_standard, cut, List.cons_append, List.zipIdx_cons, List.zipIdx_append, List.map_cons,
    List.map_append, List.filter_cons_of_pos (by simp [one]), List.filter_append, dropped,
    List.nil_append, Nat.add_comm 2]
  simp [other]
end Analyzer

end Relevance
