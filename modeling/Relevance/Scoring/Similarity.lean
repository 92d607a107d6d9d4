import Relevance.Fault
import Relevance.Numeric.Logarithm
import Relevance.Numeric.Precision

set_option autoImplicit false

namespace Relevance

inductive Similarity where
  /-- Counts that are one and two larger than they are, so that no logarithm or root is zero. -/
  | smoothed
  /-- Plain counts under the root and counts larger by one under the logarithm. -/
  | classic
  deriving DecidableEq, Repr

namespace Similarity

def name : Similarity → String
  | smoothed => "SmoothedSimilarity"
  | classic => "ClassicSimilarity"

def tf (similarity : Similarity) (freq : Float32) : Float32 :=
  match similarity with
  | smoothed => narrow (widen (1.0 + freq)).sqrt
  | classic => narrow (widen freq).sqrt

/-- What is added to the counts of documents before they are divided. -/
def countOffset : Similarity → Nat
  | smoothed => 2
  | classic => 1

/-- Factor for the rarity of a term: one more than the logarithm of the share of documents with
the term, upside down. -/
def idf (similarity : Similarity) (docFreq docCount : Nat) : Except Fault Float32 := do
  let count ← checkedAdd docCount similarity.countOffset
  let freq ← checkedAdd docFreq similarity.countOffset
  return narrow (ln (countToDouble count / countToDouble freq) + 1.0)

/-- What an occurrence of a phrase counts whose words are `distance` positions out of place. -/
def sloppyFreq (distance : UInt32) : Float32 :=
  1.0 / (distance.toFloat32 + 1.0)

/-- Factor for data kept with an occurrence, which is not taken into account. -/
def payload (_doc : Nat) (_start _finish : UInt32) (_data : List UInt8) : Float32 :=
  1.0

/-- Factor for the length of a field. Tokens on the position of the token before them count only
if `discount` is not set. -/
def lengthNorm (boost : Float32) (tokens overlaps : UInt32) (discount : Bool) : Float32 :=
  let counted := if discount then tokens.toNat - overlaps.toNat else tokens.toNat
  boost * narrow (1.0 / (countToDouble counted).sqrt)

def queryNorm (sumOfSquares : Float32) : Float32 :=
  narrow (1.0 / (widen sumOfSquares).sqrt)

def coord (matched clauses : Nat) : Float32 :=
  countToSingle matched / countToSingle clauses

end Similarity

end Relevance
