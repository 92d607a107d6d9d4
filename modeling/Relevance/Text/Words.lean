import Relevance.Text.Alphanumeric
import Relevance.Text.WordClass

/-
A text is cut at its word boundaries. Whether there is a boundary between two characters depends
on their classes and on those of one more character to either side; marks count as part of the
character that they follow. A joiner ties a pictograph to what stands before it, and a pictograph
so tied goes on to nothing but marks and further tied ones. A word is a piece with a letter or a
number in it, so blanks and punctuation are none. Main statement: the pieces put together are the
text (`flatten_segments`).
-/

set_option autoImplicit false

namespace Relevance.Words

structure Cluster where
  base : Char
  cls : WordClass
  marks : List Char

namespace Cluster

def of (base : Char) (marks : List Char) : Cluster :=
  ⟨base, .of base, marks⟩

def chars (cluster : Cluster) : List Char :=
  cluster.base :: cluster.marks

@[simp] theorem chars_of (base : Char) (marks : List Char) :
    (of base marks).chars = base :: marks := rfl

def endsInJoiner (cluster : Cluster) : Bool :=
  (cluster.chars.getLast?.map WordClass.of) == some .joiner

end Cluster

def isMark (cls : WordClass) : Bool :=
  cls == .extend || cls == .format || cls == .joiner

/-- Whether a class is that of a line break, which takes no marks. -/
def isLineBreak (cls : WordClass) : Bool :=
  cls == .carriageReturn || cls == .lineFeed || cls == .newline

def looseMarks : List Char → List Cluster
  | [] => []
  | base :: marks => [.of base marks]

/-- Puts a character in front of marks that are still loose and the clusters after them. -/
def attach (c : Char) (rest : List Char × List Cluster) : List Char × List Cluster :=
  let cls := WordClass.of c
  if isMark cls then (c :: rest.1, rest.2)
  else if isLineBreak cls then ([], .of c [] :: (looseMarks rest.1 ++ rest.2))
  else ([], .of c rest.1 :: rest.2)

def clusters (text : List Char) : List Cluster :=
  let rest := text.foldr attach ([], [])
  looseMarks rest.1 ++ rest.2

def isLetter (cls : WordClass) : Bool :=
  cls == .letter || cls == .hebrewLetter

def isMidWord (cls : WordClass) : Bool :=
  cls == .midLetter || cls == .midBoth || cls == .singleQuote

def isMidNumber (cls : WordClass) : Bool :=
  cls == .midNumber || cls == .midBoth || cls == .singleQuote

def isConnectable (cls : WordClass) : Bool :=
  isLetter cls || cls == .numeric || cls == .katakana

/-- What follows a character that may stay inside a word or a number. -/
inductive Follower where
  | ofClass (cls : WordClass)
  /-- A pictograph tied to the character by a joiner. -/
  | tied

/-- Whether a follower is tied or of a class with a property. -/
def Follower.meets (property : WordClass → Bool) : Follower → Bool
  | .ofClass cls => property cls
  | .tied => true

/-- Whether two neighbouring classes belong together, given the class before them and what follows
the right one. -/
def classesJoin (before left right : WordClass) (after : Follower) : Bool :=
  isLetter left && isLetter right
  || isLetter left && isMidWord right && after.meets isLetter
  || isLetter before && isMidWord left && isLetter right
  || left == .hebrewLetter && right == .singleQuote
  || left == .hebrewLetter && right == .doubleQuote && after.meets (· == .hebrewLetter)
  || before == .hebrewLetter && left == .doubleQuote && right == .hebrewLetter
  || left == .numeric && right == .numeric
  || isLetter left && right == .numeric
  || left == .numeric && isLetter right
  || before == .numeric && isMidNumber left && right == .numeric
  || left == .numeric && isMidNumber right && after.meets (· == .numeric)
  || left == .katakana && right == .katakana
  || (isConnectable left || left == .connector) && right == .connector
  || left == .connector && isConnectable right

/-- Whether a joiner ties the right one of two neighbouring clusters to the left one. -/
def ties (left right : Cluster) : Bool :=
  left.endsInJoiner && isPicture right.base

def Follower.of (right : Cluster) : List Cluster → Follower
  | [] => .ofClass .other
  | next :: _ => if ties right next then .tied else .ofClass next.cls

/-- Whether there is no boundary between two neighbouring clusters. `unpaired` says that the left
one is a regional indicator that no earlier one is paired with. -/
def joins (before : WordClass) (left right : Cluster) (after : Follower) (unpaired : Bool) : Bool :=
  if isLineBreak left.cls || isLineBreak right.cls then
    left.cls == .carriageReturn && right.cls == .lineFeed
  else
    ties left right
    || left.cls == .space && right.cls == .space && left.marks.isEmpty
    || left.cls == .regional && right.cls == .regional && unpaired
    || classesJoin before left.cls right.cls after

/-- The right one of two neighbouring clusters as the left one of the next two: a tied pictograph
has lost its class. -/
def Cluster.afterJoiner (left right : Cluster) : Cluster :=
  if ties left right then ⟨right.base, .other, right.marks⟩ else right

@[simp] theorem Cluster.chars_afterJoiner (left right : Cluster) :
    (left.afterJoiner right).chars = right.chars := by
  simp only [afterJoiner]
  split <;> rfl

def prepend (chars : List Char) : List (List Char) → List (List Char)
  | [] => [chars]
  | piece :: pieces => (chars ++ piece) :: pieces

def segmentsFrom (before : WordClass) (unpaired : Bool) (left : Cluster) :
    List Cluster → List (List Char)
  | [] => [left.chars]
  | right :: rest =>
    let pieces :=
      segmentsFrom left.cls (right.cls == .regional && !unpaired) (left.afterJoiner right) rest
    if joins before left right (.of right rest) unpaired then prepend left.chars pieces
    else left.chars :: pieces

def segments (text : List Char) : List (List Char) :=
  match clusters text with
  | [] => []
  | first :: rest => segmentsFrom .other (first.cls == .regional) first rest

theorem flatten_prepend (chars : List Char) (pieces : List (List Char)) :
    (prepend chars pieces).flatten = chars ++ pieces.flatten := by
  cases pieces <;> simp [prepend]

theorem flatten_segmentsFrom (before : WordClass) (unpaired : Bool) (left : Cluster)
    (rest : List Cluster) :
    (segmentsFrom before unpaired left rest).flatten =
      left.chars ++ (rest.map Cluster.chars).flatten := by
  induction rest generalizing before unpaired left with
  | nil => simp [segmentsFrom]
  | cons right rest ih =>
    simp only [segmentsFrom]
    split <;> simp [flatten_prepend, ih]

theorem flatten_looseMarks (marks : List Char) :
    ((looseMarks marks).map Cluster.chars).flatten = marks := by
  cases marks <;> simp [looseMarks]

theorem flatten_clusters (text : List Char) :
    ((clusters text).map Cluster.chars).flatten = text := by
  induction text with
  | nil => rfl
  | cons c text ih =>
    simp only [clusters, List.foldr_cons, attach, List.map_append, List.flatten_append,
      flatten_looseMarks] at ih ⊢
    split
    · simp [ih]
    · split
      · rw [List.map_cons, List.flatten_cons, List.map_append, List.flatten_append,
          flatten_looseMarks]
        simp [ih]
      · simp [ih]

/-- Nothing of a text is lost and nothing moved. -/
theorem flatten_segments (text : List Char) : (segments text).flatten = text := by
  have whole := flatten_clusters text
  unfold segments
  split <;> simp_all [flatten_segmentsFrom]

end Relevance.Words

namespace Relevance

def words (text : List Char) : List (List Char) :=
  (Words.segments text).filter (·.any isAlphanumeric)

end Relevance
