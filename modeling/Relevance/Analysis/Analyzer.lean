import Relevance.Analysis.TokenFilter
import Relevance.Fault
import Relevance.Text.Words

set_option autoImplicit false

namespace Relevance

/-- Words as tokens, numbered from one. -/
def numbered (words : List (List Char)) : List Token :=
  (words.zipIdx 1).map fun word => ⟨.ofText word.1, .ofNat word.2⟩

/-- Whether the words of a text can be numbered. The counter is asked for one number more before it
is known that there are no more words, and it steps on before it answers. -/
def Enumerable (text : List Char) : Prop :=
  (words text).length + 2 < UInt32.size

instance (text : List Char) : Decidable (Enumerable text) :=
  inferInstanceAs (Decidable (_ < _))

/-- The words of a text as tokens. Blanks and punctuation take no positions. -/
def tokenize (text : List Char) : Except Fault (List Token) :=
  if Enumerable text then .ok (numbered (words text)) else .error .additionOverflow

structure Analyzer where
  filters : List TokenFilter
  deriving DecidableEq, Repr

namespace Analyzer

def standard : Analyzer :=
  ⟨[.lowercase, .englishStop]⟩

def filter (analyzer : Analyzer) (tokens : List Token) : List Token :=
  analyzer.filters.foldl (fun tokens filter => filter.apply tokens) tokens

def analyze (analyzer : Analyzer) (text : List Char) : Except Fault (List Token) :=
  analyzer.filter <$> tokenize text

end Analyzer

end Relevance
