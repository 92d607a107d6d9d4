import Relevance.Proofs.Numeric.Bounds
import Relevance.Proofs.Query.Asked

set_option autoImplicit false

namespace Relevance

open Rounding

namespace Query

/-- Nothing in a query is required or out of place, its boosts and phrases are neither tiny nor
huge, and the disjunctions that stand one in the other have at most `2 ^ bits` parts altogether. -/
inductive Moderate : Nat → Query → Prop
  | matchNone {bits : Nat} : Moderate bits .matchNone
  | term {bits : Nat} {field : String} {wanted : Term} {boost : Float32}
    (weighed : Single.Spans (-20) 20 boost) : Moderate bits (.term field wanted boost)
  | phrase {bits : Nat} {field : String} {tokens : List Token} {boost : Float32}
    (weighed : Single.Spans (-20) 20 boost) (few : tokens.length ≤ 2 ^ 20) :
    Moderate bits (.phrase field tokens 0 boost)
  | disjunction {bits more : Nat} {queries : List Query} (few : queries.length ≤ 2 ^ more)
    (short : more ≤ 24) (each : ∀ query ∈ queries, Moderate bits query) :
    Moderate (bits + more) (.disjunction queries)

theorem Moderate.add {bits : Nat} {query : Query} (moderate : Moderate bits query) (extra : Nat) :
    Moderate (bits + extra) query := by
  induction moderate with
  | matchNone => exact .matchNone
  | term weighed => exact .term weighed
  | phrase weighed few => exact .phrase weighed few
  | disjunction few short _ ih =>
    rw [Nat.add_right_comm]
    exact .disjunction few short ih

theorem moderate_any {bits more : Nat} {queries : List Query} (few : queries.length ≤ 2 ^ more)
    (short : more ≤ 24) (each : ∀ query ∈ queries, Moderate bits query) :
    Moderate (bits + more) (any queries) := by
  match queries with
  | [] => exact .matchNone
  | [query] => exact (each query (List.mem_singleton_self query)).add more
  | first :: second :: rest => exact .disjunction few short each

/-- A query for tokens stays one under a boost, with that boost. -/
theorem moderate_boost_ofTokens (field : String) {tokens : List Token} {factor : Float32}
    (weighed : Single.Spans (-20) 20 factor) (few : tokens.length ≤ 2 ^ 20) :
    Moderate 0 ((ofTokens field tokens 0).boost factor) := by
  have whole : Single.Spans (-20) 20 1.0 := Single.spans_one.mono (by decide) (by decide)
  unfold boost
  match tokens with
  | [] => split <;> exact .matchNone
  | [token] =>
    split
    · exact .term whole
    · rw [ofTokens, ofTerm, scaleBoost, Single.one_mul]
      exact .term weighed
  | first :: second :: rest =>
    split
    · exact .phrase whole few
    · change Moderate 0 (.phrase field (first :: second :: rest) 0 (1.0 * factor))
      rw [Single.one_mul]
      exact .phrase weighed few

variable {fields : List SearchField}

theorem moderate_inFields (few : fields.length ≤ 2 ^ 10)
    (weighed : ∀ field ∈ fields, Single.Spans (-20) 20 field.boost) {tokens : List Token}
    (short : tokens.length ≤ 2 ^ 20) :
    Moderate (0 + 10) (inFields fields fun field => .ofTokens field tokens 0) := by
  apply moderate_any (by rw [List.length_map]; exact few) (by decide)
  intro query member
  obtain ⟨field, searched, rfl⟩ := List.mem_map.mp member
  exact moderate_boost_ofTokens field.name (weighed field searched) short

/-- A part of a written query asks for no more than it has tokens. -/
theorem length_ofPart_le (tokens : List Token) (part : QueryPart) :
    (ofPart fields tokens part).length ≤ tokens.length := by
  cases part with
  | word text => rw [ofPart, List.length_map]
  | phrase text =>
    cases tokens with
    | nil => exact Nat.le_refl 0
    | cons head rest => exact Nat.succ_le_succ (Nat.zero_le rest.length)

theorem moderate_ofPart (few : fields.length ≤ 2 ^ 10)
    (weighed : ∀ field ∈ fields, Single.Spans (-20) 20 field.boost) {tokens : List Token}
    (short : tokens.length ≤ 2 ^ 20) {part : QueryPart} {query : Query}
    (asked : query ∈ ofPart fields tokens part) : Moderate (0 + 10) query := by
  cases part with
  | word text =>
    obtain ⟨token, -, rfl⟩ := List.mem_map.mp asked
    have single : [token].length ≤ 2 ^ 20 := Nat.one_le_two_pow
    exact moderate_inFields few weighed single
  | phrase text =>
    cases tokens with
    | nil => cases asked
    | cons head rest =>
      obtain rfl := List.mem_singleton.mp asked
      exact moderate_inFields few weighed short

/-- Boosts between a millionth and a million are neither tiny nor huge. -/
theorem spans_of_le {boost : Float32} (above : 1e-6 ≤ boost) (below : boost ≤ 1e6) :
    Single.Spans (-20) 20 boost := by
  have least : Single.Between (scaled 8796093 (-43)) (scaled 8796093 (-43)) 1e-6 :=
    Single.between_of_eq_pack (by decide) (by decide +kernel)
      ⟨by decide, by decide, by decide, Or.inl (by decide)⟩ (by decide)
  have most : Single.Between (scaled 16000000 (-4)) (scaled 16000000 (-4)) 1e6 :=
    Single.between_of_eq_pack (by decide) (by decide +kernel)
      ⟨by decide, by decide, by decide, Or.inl (by decide)⟩ (by decide)
  have positive : 0 < scaled 8796093 (-43) := by
    rw [scaled]
    norm_num
  apply Rounding.Between.mono (Single.between_of_le least most positive above below)
  · rw [scaled]
    norm_num
  · rw [scaled]
    norm_num

/-- A written query of at most a million characters, in at most a thousand fields. -/
theorem moderate_asked {text : String} {fields : List String} {analyzer : Analyzer}
    (brief : text.length ≤ 2 ^ 20) (few : fields.length ≤ 2 ^ 10)
    (weighed : ∀ field ∈ fields, 1e-6 ≤ (SearchField.read field).boost ∧
      (SearchField.read field).boost ≤ 1e6) :
    Moderate (0 + 10 + 20) (asked text fields analyzer) := by
  rw [← String.length_toList] at brief
  have weighed : ∀ field ∈ fields.map SearchField.read, Single.Spans (-20) 20 field.boost := by
    intro field member
    obtain ⟨name, searched, rfl⟩ := List.mem_map.mp member
    exact spans_of_le (weighed name searched).1 (weighed name searched).2
  have few : (fields.map SearchField.read).length ≤ 2 ^ 10 := by
    rw [List.length_map]
    exact few
  apply moderate_any _ (by decide)
  · intro query member
    obtain ⟨part, scanned, asked⟩ := List.mem_flatMap.mp member
    have short := (QueryPart.length_text_le scanned).trans brief
    exact moderate_ofPart few weighed ((part.length_tokens_le analyzer).trans short) asked
  · rw [List.length_flatMap]
    calc ((QueryPart.scan text.toList).map fun part =>
          (ofPart (fields.map SearchField.read) (part.tokens analyzer) part).length).sum
        ≤ ((QueryPart.scan text.toList).map fun part => part.text.length).sum :=
          List.sum_le_sum fun part _ =>
            (length_ofPart_le _ part).trans (part.length_tokens_le analyzer)
      _ ≤ text.toList.length := QueryPart.sum_length_text_le text.toList
      _ ≤ 2 ^ 20 := brief

end Query

end Relevance
