import Relevance.Text.LetterCase

set_option autoImplicit false

namespace Relevance

/-- Whether the first character that does interrupt a word is a cased letter. -/
def startsCased (text : List Char) : Bool :=
  match text.dropWhile isCaseIgnorable with
  | [] => false
  | c :: _ => isCased c

/-- The lower case form of a character between two stretches of text, the first one reversed. -/
def lowercaseBetween (before : List Char) (c : Char) (after : List Char) : List Char :=
  if c = 'Σ' then (if startsCased before && !startsCased after then ['ς'] else ['σ'])
  else lowercaseForm c

/-- The lower case form of the rest of a text, given reversed what stands before it. -/
def lowercaseAfter (before : List Char) : List Char → List Char
  | [] => []
  | c :: rest => lowercaseBetween before c rest ++ lowercaseAfter (c :: before) rest

def lowercase (text : List Char) : List Char :=
  lowercaseAfter [] text

end Relevance
