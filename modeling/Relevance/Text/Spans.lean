set_option autoImplicit false

namespace Relevance

/-- Ranges of code points, first and last of each, in ascending order. -/
abbrev Spans := List (Nat × Nat)

def Spans.has (spans : Spans) (c : Char) : Bool :=
  spans.any fun span => span.1 ≤ c.toNat && c.toNat ≤ span.2

theorem Spans.has_iff {spans : Spans} {c : Char} :
    spans.has c = true ↔ ∃ span ∈ spans, span.1 ≤ c.toNat ∧ c.toNat ≤ span.2 := by
  simp [Spans.has]

end Relevance
