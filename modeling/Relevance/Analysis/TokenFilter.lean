import Relevance.Analysis.Token
import Relevance.Text.Lowercase

set_option autoImplicit false

namespace Relevance

/-- A step that tokens go through after a text has been split into words. -/
inductive TokenFilter where
  | lowercase
  | englishStop
  deriving DecidableEq, Repr

def englishStopWords : List String := [
  "a", "an", "and", "are", "as", "at", "be", "but", "by", "for", "if", "in", "into", "is", "it",
  "no", "not", "of", "on", "or", "such", "that", "the", "their", "then", "there", "these", "they",
  "this", "to", "was", "will", "with"]

/-- Whether a term is a stop word, letter case included. -/
def Term.isStopWord (term : Term) : Bool :=
  englishStopWords.any fun word => term = .ofString word

/-- The term in lower case. Terms that are no text, or have no upper case letter, stay the same. -/
def Term.lowercase (term : Term) : Term :=
  match term.text? with
  | some text => if text.any isUppercase then .ofText (Relevance.lowercase text) else term
  | none => term

def TokenFilter.apply : TokenFilter → List Token → List Token
  | .lowercase, tokens => tokens.map fun token => ⟨token.term.lowercase, token.position⟩
  | .englishStop, tokens => tokens.filter fun token => !token.term.isStopWord

end Relevance
