import Relevance.Text.Words

set_option autoImplicit false

namespace Relevance

def spaced (letters : List Char) : List Char :=
  letters.flatMap fun c => [' ', c]

theorem spaced_cons (c : Char) (letters : List Char) :
    spaced (c :: letters) = ' ' :: c :: spaced letters := rfl

/-- A letter that is a word where it stands alone. -/
def IsPlainLetter (c : Char) : Prop :=
  WordClass.of c = .letter ∧ isAlphanumeric c = true

instance (c : Char) : Decidable (IsPlainLetter c) :=
  inferInstanceAs (Decidable (_ ∧ _))

theorem isPlainLetter_of_mem_spaced {letters : List Char} {c : Char}
    (plain : ∀ c ∈ letters, IsPlainLetter c) (member : c ∈ spaced letters) :
    c = ' ' ∨ IsPlainLetter c := by
  obtain ⟨letter, listed, inside⟩ := List.mem_flatMap.mp member
  simp only [List.mem_cons, List.not_mem_nil, or_false] at inside
  rcases inside with rfl | rfl
  · exact Or.inl rfl
  · exact Or.inr (plain c listed)

namespace Words

@[simp] theorem Cluster.cls_of (c : Char) (marks : List Char) :
    (of c marks).cls = WordClass.of c := rfl

@[simp] theorem of_blank : WordClass.of ' ' = .space := by decide +kernel

/-- Letters and blanks take no marks, so each is a cluster. -/
theorem clusters_spaced {letters : List Char} (plain : ∀ c ∈ letters, IsPlainLetter c) :
    clusters (spaced letters) = (spaced letters).map (Cluster.of · []) := by
  have loose : (spaced letters).foldr attach ([], []) =
      ([], (spaced letters).map (Cluster.of · [])) := by
    have all : ∀ c ∈ spaced letters, WordClass.of c = .space ∨ WordClass.of c = .letter := by
      intro c member
      rcases isPlainLetter_of_mem_spaced plain member with rfl | letter
      · exact Or.inl of_blank
      · exact Or.inr letter.1
    generalize spaced letters = text at all
    induction text with
    | nil => rfl
    | cons c rest ih =>
      rw [List.forall_mem_cons] at all
      rw [List.foldr_cons, ih all.2, attach]
      rcases all.1 with space | letter
      · simp [space, isMark, isLineBreak]
      · simp [letter, isMark, isLineBreak]
  rw [clusters, loose]
  rfl

/-- Of two neighbours, one is a letter and one a blank. -/
def Alternate (c d : Char) : Prop :=
  WordClass.of c = .letter ∧ WordClass.of d = .space ∨
    WordClass.of c = .space ∧ WordClass.of d = .letter

/-- There is a boundary between a letter and a blank, whatever stands around them. -/
theorem segmentsFrom_of_alternate {c d : Char} (alternate : Alternate c d) (before : WordClass)
    (rest : List Cluster) : segmentsFrom before false (.of c []) (.of d [] :: rest) =
      [c] :: segmentsFrom (WordClass.of c) false (.of d []) rest := by
  have apart : ties (.of c []) (.of d []) = false := by
    have ends : (Cluster.of c []).endsInJoiner = false := by
      rcases alternate with ⟨left, -⟩ | ⟨left, -⟩ <;> simp [Cluster.endsInJoiner, left]
    rw [ties, ends, Bool.false_and]
  have single : ∀ after, joins before (.of c []) (.of d []) after false = false := by
    intro after
    unfold joins
    rcases alternate with ⟨left, right⟩ | ⟨left, right⟩ <;>
      simp [apart, classesJoin, left, right, isLineBreak, isLetter, isMidWord, isMidNumber,
        isConnectable]
  have paired : ((Cluster.of d []).cls == .regional && !false) = false := by
    rcases alternate with ⟨-, right⟩ | ⟨-, right⟩ <;> simp [right]
  rw [segmentsFrom, single, paired, Cluster.afterJoiner, apart]
  rfl

/-- Letters and blanks by turns are pieces of their own. -/
theorem segmentsFrom_spaced {letters : List Char} (plain : ∀ c ∈ letters, IsPlainLetter c)
    {c : Char} (letter : WordClass.of c = .letter) (before : WordClass) :
    segmentsFrom before false (.of c []) ((spaced letters).map (Cluster.of · [])) =
      [c] :: (spaced letters).map ([·]) := by
  induction letters generalizing c before with
  | nil => rfl
  | cons d rest ih =>
    rw [List.forall_mem_cons] at plain
    have next : WordClass.of d = .letter := plain.1.1
    rw [spaced_cons, List.map_cons, List.map_cons,
      segmentsFrom_of_alternate (Or.inl ⟨letter, of_blank⟩),
      segmentsFrom_of_alternate (Or.inr ⟨of_blank, next⟩), ih plain.2 next]
    rfl

end Words

/-- Letters with blanks in between are the words. -/
theorem words_spaced {letters : List Char} (plain : ∀ c ∈ letters, IsPlainLetter c) :
    words (spaced letters) = letters.map ([·]) := by
  have pieces : Words.segments (spaced letters) = (spaced letters).map ([·]) := by
    rw [Words.segments, Words.clusters_spaced plain]
    cases letters with
    | nil => rfl
    | cons c rest =>
      rw [List.forall_mem_cons] at plain
      have first : ((Words.Cluster.of ' ' []).cls == .regional) = false := by simp
      rw [spaced_cons, List.map_cons, List.map_cons]
      simp only [first]
      rw [Words.segmentsFrom_of_alternate (Or.inr ⟨Words.of_blank, plain.1.1⟩),
        Words.segmentsFrom_spaced plain.2 plain.1.1]
      rfl
  rw [words, pieces]
  clear pieces
  induction letters with
  | nil => rfl
  | cons c rest ih =>
    rw [List.forall_mem_cons] at plain
    have blank : isAlphanumeric ' ' = false := by decide +kernel
    have own := plain.1.2
    simp [spaced_cons, blank, own, ih plain.2]

end Relevance
