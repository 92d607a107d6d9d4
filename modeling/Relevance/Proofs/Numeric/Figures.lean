import Relevance.Numeric.Layout

set_option autoImplicit false

namespace Relevance

namespace Layout

variable {digits : List Char} {magnitude : Int} {c : Char}

theorem of_mem_positional (all : ∀ c ∈ digits, c.isDigit = true)
    (member : c ∈ positional digits magnitude) : c.isDigit = true ∨ c = '.' := by
  unfold positional at member
  split at member
  · simp only [List.mem_cons, List.mem_append, List.mem_replicate] at member
    rcases member with rfl | rfl | ⟨-, rfl⟩ | kept
    · exact Or.inl rfl
    · exact Or.inr rfl
    · exact Or.inl rfl
    · exact Or.inl (all c kept)
  · simp only [List.mem_cons, List.mem_append, List.mem_replicate] at member
    rcases member with (taken | ⟨-, rfl⟩) | rfl | rest
    · exact Or.inl (all c (List.mem_of_mem_take taken))
    · exact Or.inl rfl
    · exact Or.inr rfl
    · split at rest
      · rw [List.mem_singleton.mp rest]
        exact Or.inl rfl
      · exact Or.inl (all c (List.mem_of_mem_drop rest))

theorem of_mem_scientific {layout : Layout} (all : ∀ c ∈ digits, c.isDigit = true)
    (member : c ∈ layout.scientific digits magnitude) :
    c.isDigit = true ∨ c ∈ ['.', 'e', '-', '+'] := by
  simp only [scientific, List.mem_append, List.mem_cons] at member
  rcases member with (taken | point) | rfl | sign | exponent
  · exact Or.inl (all c (List.mem_of_mem_take taken))
  · split at point
    · cases point
    · rcases List.mem_cons.mp point with rfl | rest
      · exact Or.inr (by decide)
      · exact Or.inl (all c (List.mem_of_mem_drop rest))
  · exact Or.inr (by decide)
  · right
    split at sign
    · rw [List.mem_singleton.mp sign]
      decide
    · split at sign
      · rw [List.mem_singleton.mp sign]
        decide
      · cases sign
  · exact Or.inl (Nat.isDigit_of_mem_toDigits (by decide) (by decide) exponent)

theorem of_mem_write {layout : Layout} {d : Decimal} (member : c ∈ layout.write d) :
    c.isDigit = true ∨ c ∈ ['.', 'e', '-', '+'] := by
  have all : ∀ c ∈ Nat.toDigits 10 d.digits, c.isDigit = true :=
    fun _ => Nat.isDigit_of_mem_toDigits (by decide) (by decide)
  simp only [write] at member
  split at member
  · rcases of_mem_positional all member with digit | rfl
    · exact Or.inl digit
    · exact Or.inr (by decide)
  · exact of_mem_scientific all member

theorem write_ne_nil (layout : Layout) (d : Decimal) : layout.write d ≠ [] := by
  simp only [write]
  split
  · unfold positional
    split <;> simp
  · simp [scientific]

end Layout

theorem of_mem_signText {sign : Float.Model.UnpackedFloat.Sign} {c : Char}
    (member : c ∈ (signText sign).toList) : c = '-' := by
  cases sign with
  | negative => exact List.mem_singleton.mp member
  | positive => cases member

/-- The characters of a written score. -/
theorem of_mem_scoreText {x : Float32} {c : Char} (member : c ∈ (scoreText x).toList) :
    c.isDigit = true ∨ c ∈ ['.', 'e', '-', '+', 'N', 'a', 'i', 'n', 'f'] := by
  unfold scoreText Layout.writeDatum at member
  split at member
  · exact Or.inr ((by decide : "NaN".toList ⊆ ['.', 'e', '-', '+', 'N', 'a', 'i', 'n', 'f']) member)
  · right
    rw [String.toList_append, List.mem_append] at member
    rcases member with sign | word
    · rw [of_mem_signText sign]
      decide
    · exact (by decide : "inf".toList ⊆ ['.', 'e', '-', '+', 'N', 'a', 'i', 'n', 'f']) word
  · rw [String.toList_append, List.mem_append] at member
    rcases member with sign | zero
    · rw [of_mem_signText sign]
      exact Or.inr (by decide)
    · have figures : c ∈ ['0', '.', '0'] := zero
      simp only [List.mem_cons, List.not_mem_nil, or_false] at figures
      rcases figures with rfl | rfl | rfl <;> decide
  · rw [String.toList_append, List.mem_append, String.toList_ofList] at member
    rcases member with sign | written
    · rw [of_mem_signText sign]
      exact Or.inr (by decide)
    · rcases Layout.of_mem_write written with digit | other
      · exact Or.inl digit
      · exact Or.inr (List.mem_append_left ['N', 'a', 'i', 'n', 'f'] other)

/-- A character that written scores do not use. -/
theorem not_mem_scoreText {c : Char} (noDigit : c.isDigit = false)
    (other : c ∉ ['.', 'e', '-', '+', 'N', 'a', 'i', 'n', 'f']) (x : Float32) :
    c ∉ (scoreText x).toList := by
  intro member
  rcases of_mem_scoreText member with digit | listed
  · rw [noDigit] at digit
    cases digit
  · exact other listed

theorem scoreText_ne_nil (x : Float32) : (scoreText x).toList ≠ [] := by
  unfold scoreText Layout.writeDatum
  split
  · decide
  · simp
  · simp
  · simp [Layout.write_ne_nil]

end Relevance
