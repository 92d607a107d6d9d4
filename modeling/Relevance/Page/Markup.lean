import Relevance.Page.Entity

set_option autoImplicit false

namespace Relevance

namespace Markup

/-- The opening tag of an element, or of one with a longer name. -/
def openTag (name : String) : Pattern :=
  (Pattern.literal ('<' :: name.toList)).followedBy (.through '>')

def closeTag (name : String) : Pattern :=
  ((Pattern.literal ('<' :: '/' :: name.toList)).followedBy .blanks).followedBy (.literal ['>'])

def element (name : String) : Pattern :=
  .enclosed (openTag name) (closeTag name)

def comment : Pattern :=
  .enclosed (.literal "<!--".toList) (.literal "-->".toList)

def hidden : Pattern :=
  comment.orElse ((element "script").orElse (element "style"))

def tag : Pattern :=
  (Pattern.literal ['<']).followedBy (.through '>')

/-- Single blanks in place of white space; `inBlank` says that there was some just before. -/
def collapseFrom (inBlank : Bool) : List Char → List Char
  | [] => []
  | c :: text =>
    if isBlank c then
      if inBlank then collapseFrom true text else ' ' :: collapseFrom true text
    else c :: collapseFrom false text

/-- Single blanks in place of white space, and none at the ends. -/
def collapseBlanks (text : List Char) : List Char :=
  trimBlank (collapseFrom false text)

def visibleText (markup : List Char) : List Char :=
  collapseBlanks (Entity.decode (tag.blankOut (hidden.blankOut markup)))

def title? (markup : List Char) : Option (List Char) :=
  Pattern.firstSome (Pattern.contents? (openTag "title") (closeTag "title")) markup

/-- What stands behind an opening tag, up to the closing tag or to the end. -/
def bodyAfterTag? (markup : List Char) : Option (List Char) := do
  let inner := markup.drop (← openTag "body" markup)
  return match (closeTag "body").search inner with
    | some (length, _) => inner.take length
    | none => inner

def body? (markup : List Char) : Option (List Char) :=
  Pattern.firstSome bodyAfterTag? markup

end Markup

structure Page where
  title : String
  body : String
  deriving DecidableEq, Repr

/-- The text of the title and of the body. On a page without a body, all that is not in the head
counts as the body. -/
def Page.ofMarkup (markup : String) : Page :=
  let markup := markup.toList
  let title := (Markup.title? markup).map Markup.visibleText
  let body := (Markup.body? markup).getD ((Markup.element "head").blankOut markup)
  ⟨.ofList (title.getD []), .ofList (Markup.visibleText body)⟩

end Relevance
