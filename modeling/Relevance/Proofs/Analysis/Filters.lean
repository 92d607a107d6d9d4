import Relevance.Proofs.Analysis.Positions
import Relevance.Proofs.Text.Lowercase
import Relevance.Proofs.Text.Utf8

set_option autoImplicit false

namespace Relevance

namespace Term

variable {term : Term} {text : List Char}

theorem text?_ofText (text : List Char) : (ofText text).text? = some text :=
  Utf8.decode?_encode text

/-- A term that is no text stays as it is. -/
theorem lowercase_of_unread (unread : term.text? = none) : term.lowercase = term := by
  rw [lowercase, unread]

theorem lowercase_of_uppercase (read : term.text? = some text)
    (upper : text.any isUppercase = true) : term.lowercase = .ofText (Relevance.lowercase text) := by
  rw [lowercase, read]
  exact if_pos upper

theorem lowercase_of_small (read : term.text? = some text)
    (small : text.any isUppercase = false) : term.lowercase = term := by
  rw [lowercase, read]
  exact if_neg (ne_true_of_eq_false small)

/-- Lowering a term twice comes to the same as lowering it once, also where the second time still
finds an upper case letter, one without a lower case form. -/
theorem lowercase_lowercase (term : Term) : term.lowercase.lowercase = term.lowercase := by
  cases read : term.text? with
  | none => rw [lowercase_of_unread read, lowercase_of_unread read]
  | some text =>
    cases upper : text.any isUppercase with
    | false => rw [lowercase_of_small read upper, lowercase_of_small read upper]
    | true =>
      have again := text?_ofText (Relevance.lowercase text)
      rw [lowercase_of_uppercase read upper]
      cases upper : (Relevance.lowercase text).any isUppercase with
      | false => exact lowercase_of_small again upper
      | true => rw [lowercase_of_uppercase again upper, Relevance.lowercase_lowercase]

theorem text?_lowercase_iff (read : term.text? = some text) :
    term.lowercase.text? = some (Relevance.lowercase text) ↔
      text.any isUppercase = true ∨ ∀ c ∈ text, isTitlecase c = false := by
  cases upper : text.any isUppercase with
  | true =>
    rw [lowercase_of_uppercase read upper, text?_ofText]
    exact iff_of_true rfl (.inl rfl)
  | false =>
    have small : ∀ c ∈ text, isUppercase c = false := by
      simpa only [List.any_eq_false, Bool.not_eq_true] using upper
    rw [lowercase_of_small read upper, read, Option.some.injEq, eq_comm,
      lowercase_eq_self_iff small]
    simp

end Term

/-- The lowercase filter keeps every token in its place and at its position. The text of a token
becomes its lower case form exactly if it has an upper case letter or no titlecase letter. -/
theorem lowercased_in_full_iff {tokens : List Token} {place : Nat} {token : Token}
    {text : List Char} (here : tokens[place]? = some token) (read : token.term.text? = some text) :
    ∃ lowered, (TokenFilter.lowercase.apply tokens)[place]? = some lowered ∧
      lowered.position = token.position ∧
      (lowered.term.text? = some (lowercase text) ↔
        text.any isUppercase = true ∨ ∀ c ∈ text, isTitlecase c = false) := by
  refine ⟨⟨token.term.lowercase, token.position⟩, ?_, rfl, Term.text?_lowercase_iff read⟩
  rw [TokenFilter.apply, List.getElem?_map, here]
  rfl

/-- A word that ends in a capital sigma, behind one that is no text. -/
def sirenTokens : List Token := [⟨⟨[0xff, 0x41]⟩, 1⟩, ⟨.ofString "ΣΕΙΡΗΝΑΣ", 4⟩]

theorem siren_lowercased : sirenTokens[1]? = some ⟨.ofString "ΣΕΙΡΗΝΑΣ", 4⟩ ∧
    (Term.ofString "ΣΕΙΡΗΝΑΣ").text? = some "ΣΕΙΡΗΝΑΣ".toList ∧
    ∃ lowered, (TokenFilter.lowercase.apply sirenTokens)[1]? = some lowered ∧
      lowered.position = 4 ∧ lowered.term.text? = some "σειρηνας".toList := by
  have read : (Term.ofString "ΣΕΙΡΗΝΑΣ").text? = some "ΣΕΙΡΗΝΑΣ".toList := Term.text?_ofText _
  have form : lowercase "ΣΕΙΡΗΝΑΣ".toList = "σειρηνας".toList := by decide +kernel
  have here : sirenTokens[1]? = some ⟨.ofString "ΣΕΙΡΗΝΑΣ", 4⟩ := rfl
  obtain ⟨lowered, found, kept, full⟩ := lowercased_in_full_iff here read
  rw [form] at full
  exact ⟨here, read, lowered, found, kept, full.mpr (.inl (by decide +kernel))⟩

/-- A word that begins with a titlecase letter and has no upper case letter passes the filter. -/
theorem titlecase_word_passes :
    (Term.ofString "ǅungla").text? = some "ǅungla".toList ∧
    lowercase "ǅungla".toList = "ǆungla".toList ∧
    TokenFilter.lowercase.apply [⟨.ofString "ǅungla", 1⟩] = [⟨.ofString "ǅungla", 1⟩] ∧
    (Term.ofString "ǅungla").text? ≠ some (lowercase "ǅungla".toList) := by
  have read : (Term.ofString "ǅungla").text? = some "ǅungla".toList := Term.text?_ofText _
  have form : lowercase "ǅungla".toList = "ǆungla".toList := by decide +kernel
  have kept := Term.lowercase_of_small read (by decide +kernel)
  refine ⟨read, form, ?_, ?_⟩
  · rw [TokenFilter.apply, List.map_singleton, kept]
  · rw [read, form]
    decide

namespace TokenFilter

def chain (filters : List TokenFilter) (tokens : List Token) : List Token :=
  filters.foldl (fun tokens filter => filter.apply tokens) tokens

theorem chain_standard (tokens : List Token) :
    chain [.lowercase, .englishStop] tokens = englishStop.apply (lowercase.apply tokens) := rfl

/-- Tokens with lowered terms, none of them a stop word, go through unchanged. -/
theorem chain_standard_eq_self {tokens : List Token}
    (settled : ∀ token ∈ tokens, token.term.lowercase = token.term ∧
      token.term.isStopWord = false) : chain [.lowercase, .englishStop] tokens = tokens := by
  have lowered : lowercase.apply tokens = tokens := by
    rw [apply]
    conv_rhs => rw [← List.map_id tokens]
    apply List.map_congr_left
    intro token member
    rw [(settled token member).1]
    rfl
  rw [chain_standard, lowered]
  apply List.filter_eq_self.mpr
  intro token member
  rw [(settled token member).2]
  rfl

end TokenFilter

theorem Term.isStopWord_eq_false_iff {term : Term} : term.isStopWord = false ↔
    ∀ word ∈ englishStopWords, term ≠ .ofString word := by
  simp only [isStopWord, List.any_eq_false, decide_eq_true_eq]

/-- Lower case and then no stop words: the tokens that are left stand where they stood, in the same
order, no stop word is among them, and doing the same again changes nothing. -/
theorem standard_chain_settles (tokens : List Token) :
    ((TokenFilter.chain [.lowercase, .englishStop] tokens).map Token.position).Sublist
      (tokens.map Token.position) ∧
    (∀ token ∈ TokenFilter.chain [.lowercase, .englishStop] tokens, ∀ word ∈ englishStopWords,
      token.term ≠ .ofString word) ∧
    TokenFilter.chain [.lowercase, .englishStop]
        (TokenFilter.chain [.lowercase, .englishStop] tokens) =
      TokenFilter.chain [.lowercase, .englishStop] tokens := by
  have kept : ∀ token ∈ TokenFilter.chain [.lowercase, .englishStop] tokens,
      token.term.lowercase = token.term ∧ token.term.isStopWord = false := by
    intro token member
    obtain ⟨lowered, other⟩ := List.mem_filter.mp member
    obtain ⟨origin, -, rfl⟩ := List.mem_map.mp lowered
    exact ⟨origin.term.lowercase_lowercase, (Bool.not_eq_true' _).mp other⟩
  refine ⟨?_, ?_, TokenFilter.chain_standard_eq_self kept⟩
  · have first := TokenFilter.lowercase.positions_sublist tokens
    have second := TokenFilter.englishStop.positions_sublist (TokenFilter.lowercase.apply tokens)
    exact second.trans first
  · intro token member
    exact Term.isStopWord_eq_false_iff.mp (kept token member).2

end Relevance
