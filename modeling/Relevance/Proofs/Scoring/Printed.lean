import Relevance.Proofs.Numeric.Figures
import Relevance.Proofs.Text.Runs
import Relevance.Scoring.Explanation

set_option autoImplicit false

namespace Relevance

/-- What can be seen of an explanation: the text of every value and its description. -/
inductive Shown where
  | node (value : String) (description : String) (details : List Shown)

namespace Explanation

/-- Induction on lists of explanations: on what the first is made of, and on those after it. -/
@[elab_as_elim]
theorem induct_list {motive : List Explanation → Prop} (nil : motive [])
    (cons : ∀ value label isMatch details rest, motive details → motive rest →
      motive (.node value label isMatch details :: rest))
    (es : List Explanation) : motive es :=
  Explanation.rec_1 (motive_1 := fun e => ∀ rest, motive rest → motive (e :: rest))
    (motive_2 := motive)
    (fun value label isMatch details inside rest later =>
      cons value label isMatch details rest inside later)
    nil (fun _ rest first later => first rest later) es

mutual

def shown : Explanation → Shown
  | node value label _ details => .node (scoreText value) label.text (shownAll details)

def shownAll : List Explanation → List Shown
  | [] => []
  | e :: rest => e.shown :: shownAll rest

end

/-- The node at the end of a way. A way says at each level which of the details to go to. -/
def at? : Explanation → List Nat → Option Explanation
  | e, [] => some e
  | e, place :: way => e.details[place]?.bind fun detail => detail.at? way

mutual

def ways : Explanation → List (List Nat)
  | node _ _ _ details => [] :: waysAll 0 details

def waysAll (place : Nat) : List Explanation → List (List Nat)
  | [] => []
  | e :: rest => e.ways.map (place :: ·) ++ waysAll (place + 1) rest

end

variable {e f : Explanation} {es fs : List Explanation} {way : List Nat}

theorem mem_waysAll {place : Nat} : way ∈ waysAll place es ↔
    ∃ k detail, es[k]? = some detail ∧ ∃ inner ∈ detail.ways, (place + k) :: inner = way := by
  induction es generalizing place with
  | nil => simp [waysAll]
  | cons e rest ih =>
    rw [waysAll, List.mem_append, List.mem_map, ih]
    constructor
    · rintro (⟨inner, member, rfl⟩ | ⟨k, detail, present, inner, member, rfl⟩)
      · exact ⟨0, e, rfl, inner, member, rfl⟩
      · exact ⟨k + 1, detail, present, inner, member, by rw [Nat.add_right_comm, Nat.add_assoc]⟩
    · rintro ⟨k, detail, present, inner, member, rfl⟩
      cases k with
      | zero =>
        cases present
        exact Or.inl ⟨inner, member, rfl⟩
      | succ k =>
        exact Or.inr ⟨k, detail, present, inner, member, by rw [Nat.add_right_comm, Nat.add_assoc]⟩

/-- There is a node at the end of each of the ways and of no other. -/
theorem mem_ways : way ∈ e.ways ↔ (e.at? way).isSome := by
  induction way generalizing e with
  | nil => cases e; simp [ways, at?]
  | cons place way ih =>
    obtain ⟨value, label, isMatch, nodes⟩ := e
    rw [ways, List.mem_cons, mem_waysAll, at?, details]
    simp only [reduceCtorEq, false_or, Nat.zero_add, List.cons.injEq]
    constructor
    · rintro ⟨k, detail, present, inner, member, rfl, rfl⟩
      rw [present, Option.bind_some, ← ih]
      exact member
    · intro found
      cases present : nodes[place]? with
      | none =>
        rw [present] at found
        cases found
      | some detail =>
        rw [present, Option.bind_some, ← ih] at found
        exact ⟨place, detail, present, way, found, rfl, rfl⟩

/-- Of two ways the one that leaves the other at an earlier place, or ends on it, comes first. -/
theorem pairwise_waysAll (place : Nat) (es : List Explanation) :
    (waysAll place es).Pairwise (· < ·) := by
  induction es using induct_list generalizing place with
  | nil => exact List.Pairwise.nil
  | cons value label isMatch details rest inside later =>
    rw [waysAll, ways, List.pairwise_append, List.pairwise_map]
    refine ⟨?_, later (place + 1), ?_⟩
    · simp only [List.cons_lt_cons_self]
      refine List.pairwise_cons.mpr ⟨fun way member => ?_, inside 0⟩
      obtain ⟨k, detail, -, inner, -, rfl⟩ := mem_waysAll.mp member
      exact List.nil_lt_cons _ _
    · intro first front second back
      obtain ⟨inner, -, rfl⟩ := List.mem_map.mp front
      obtain ⟨k, detail, -, other, -, rfl⟩ := mem_waysAll.mp back
      exact List.cons_lt_cons_iff.mpr (Or.inl (by omega))

/-- The printed form goes through the nodes in the order of their ways, by whatever look-up they are
found. -/
theorem outlineAll_eq_filterMap {place depth : Nat}
    {find : List Nat → Option (Nat × Explanation)}
    (finds : ∀ k way, find ((place + k) :: way) =
      (es[k]?.bind fun e => e.at? way).map fun node => (depth + way.length, node)) :
    outlineAll depth es = (waysAll place es).filterMap find := by
  induction es using induct_list generalizing place depth find with
  | nil => rfl
  | cons value label isMatch details rest inside later =>
    have first : find [place] = some (depth, node value label isMatch details) := finds 0 []
    have within : outlineAll (depth + 1) details =
        (waysAll 0 details).filterMap fun way => find (place :: way) := by
      refine inside fun k way => ?_
      rw [Nat.zero_add]
      refine (finds 0 (k :: way)).trans ?_
      rw [List.length_cons, ← Nat.add_assoc, Nat.add_right_comm]
      rfl
    have after : outlineAll depth rest = (waysAll (place + 1) rest).filterMap find := by
      refine later fun k way => ?_
      rw [Nat.add_right_comm, Nat.add_assoc]
      exact finds (k + 1) way
    rw [outlineAll, outline, waysAll, ways, List.filterMap_append, List.filterMap_map,
      List.filterMap_cons, Function.comp_apply, first, within, after]
    rfl

theorem outline_eq_filterMap (e : Explanation) :
    e.outline 0 = e.ways.filterMap fun way => (e.at? way).map fun node => (way.length, node) := by
  obtain ⟨value, label, isMatch, nodes⟩ := e
  rw [outline, ways, List.filterMap_cons]
  have details : outlineAll 1 nodes = (waysAll 0 nodes).filterMap fun way =>
      ((node value label isMatch nodes).at? way).map fun node => (way.length, node) := by
    refine outlineAll_eq_filterMap fun k way => ?_
    rw [Nat.zero_add, List.length_cons, Nat.add_comm 1]
    rfl
  rw [details]
  rfl

structure Face where
  depth : Nat
  value : String
  description : String

namespace Face

def line (face : Face) : List Char :=
  List.replicate (2 * face.depth) ' ' ++
    (face.value.toList ++ ' ' :: '=' :: ' ' :: face.description.toList)

/-- Reads a line: the blanks in front of it, the value up to the next blank, and the description
behind the equals sign. -/
def read (line : List Char) : Face :=
  let behind := line.dropWhile (· = ' ')
  { depth := (line.takeWhile (· = ' ')).length / 2
    value := .ofList (behind.takeWhile (· ≠ ' '))
    description := .ofList ((behind.dropWhile (· ≠ ' ')).drop 3) }

/-- A line with a value that is one word is read as what it shows. -/
theorem read_line {face : Face} (nonempty : face.value.toList ≠ [])
    (word : ' ' ∉ face.value.toList) : read face.line = face := by
  obtain ⟨depth, value, description⟩ := face
  simp only at nonempty word
  have solid : ∀ c ∈ value.toList, decide (c ≠ ' ') = true := by
    intro c member
    exact decide_eq_true fun blank => word (blank ▸ member)
  obtain ⟨first, more, chars⟩ := List.exists_cons_of_ne_nil nonempty
  have blanks : ∀ c ∈ List.replicate (2 * depth) ' ', decide (c = ' ') = true := by
    intro c member
    exact decide_eq_true (List.eq_of_mem_replicate member)
  have starts : ∀ c ∈ (value.toList ++ ' ' :: '=' :: ' ' :: description.toList).head?,
      decide (c = ' ') = false := by
    rw [chars] at solid ⊢
    rintro _ ⟨⟩
    simpa using solid first List.mem_cons_self
  have ends : ∀ c ∈ (' ' :: '=' :: ' ' :: description.toList).head?, decide (c ≠ ' ') = false := by
    rintro _ ⟨⟩
    rfl
  obtain ⟨indent, behind⟩ := span_append blanks starts
  obtain ⟨figure, label⟩ := span_append solid ends
  rw [read, line, indent, behind, figure, label, List.length_replicate]
  simp

end Face

def face (entry : Nat × Explanation) : Face :=
  ⟨entry.1, scoreText entry.2.value, entry.2.description⟩

def faces (e : Explanation) : List Face :=
  (e.outline 0).map face

theorem line_face (entry : Nat × Explanation) :
    (face entry).line = List.replicate (2 * entry.1) ' ' ++ entry.2.summary.toList := by
  simp [face, Face.line, summary]

theorem read_line_face (entry : Nat × Explanation) : Face.read (face entry).line = face entry :=
  Face.read_line (scoreText_ne_nil _) (not_mem_scoreText (by decide) (by decide) _)

/-- A text of unbroken lines is taken apart at its line breaks. -/
theorem splitOn_lines {lines : List (List Char)} (unbroken : ∀ line ∈ lines, '\n' ∉ line) :
    (lines.flatMap (· ++ ['\n'])).splitOn '\n' = lines ++ [[]] := by
  induction lines with
  | nil => rfl
  | cons line rest ih =>
    rw [List.flatMap_cons, List.append_assoc, List.singleton_append,
      List.splitOn_append_cons_self_of_not_mem (unbroken line List.mem_cons_self),
      ih fun line member => unbroken line (List.mem_cons_of_mem _ member), List.cons_append]

theorem toList_text (e : Explanation) :
    e.text.toList = (e.faces.map Face.line).flatMap (· ++ ['\n']) := by
  rw [text, faces, String.toList_join, List.flatMap_map, List.flatMap_map, List.flatMap_map]
  congr 1
  funext entry
  simp [line, line_face]

/-- No description has a line break. -/
def Unbroken (e : Explanation) : Prop :=
  ∀ way node, e.at? way = some node → '\n' ∉ node.description.toList

/-- The lines of a printed explanation. -/
theorem Unbroken.splitOn_text (unbroken : e.Unbroken) :
    e.text.toList.splitOn '\n' = e.faces.map Face.line ++ [[]] := by
  rw [toList_text, splitOn_lines]
  intro line member
  rw [faces, List.map_map, outline_eq_filterMap] at member
  obtain ⟨entry, listed, rfl⟩ := List.mem_map.mp member
  obtain ⟨way, -, found⟩ := List.mem_filterMap.mp listed
  obtain ⟨node, present, rfl⟩ := Option.map_eq_some_iff.mp found
  simp only [Function.comp_apply, Face.line, face, List.mem_append]
  rintro (blank | figure | rest)
  · exact absurd (List.eq_of_mem_replicate blank) (by decide)
  · exact not_mem_scoreText (by decide) (by decide) _ figure
  · have written : '\n' ∈ node.description.toList := by simpa using rest
    exact unbroken way node present written

/-- The first entry, if there is one, is less deep. -/
def Shallow (depth : Nat) (rest : List Face) : Prop :=
  ∀ face ∈ rest.head?, face.depth < depth

theorem shallow_outlineAll_append {depth : Nat} {rest : List Face}
    (shallow : Shallow depth rest) (es : List Explanation) :
    Shallow (depth + 1) ((outlineAll depth es).map face ++ rest) := by
  intro entry first
  cases es with
  | nil => exact Nat.lt_succ_of_lt (shallow entry first)
  | cons e _ =>
    obtain ⟨value, label, isMatch, details⟩ := e
    cases first
    exact Nat.lt_succ_self depth

/-- Depths, values and descriptions in the order of the lines determine all that is shown. What
comes after the last line is less deep than the first. -/
theorem outlineAll_unique {depth : Nat} {rest more : List Face}
    (shallow : Shallow depth rest) (level : Shallow depth more)
    (same : (outlineAll depth es).map face ++ rest = (outlineAll depth fs).map face ++ more) :
    shownAll es = shownAll fs ∧ rest = more := by
  induction es using induct_list generalizing fs depth rest more with
  | nil =>
    cases fs with
    | nil => exact ⟨rfl, same⟩
    | cons f _ =>
      obtain ⟨value, label, isMatch, details⟩ := f
      rw [show rest = _ from same] at shallow
      exact absurd (shallow _ rfl) (Nat.lt_irrefl depth)
  | cons value label isMatch details others inside later =>
    cases fs with
    | nil =>
      rw [← show _ = more from same] at level
      exact absurd (level _ rfl) (Nat.lt_irrefl depth)
    | cons f siblings =>
      obtain ⟨amount, name, holds, parts⟩ := f
      simp only [outlineAll, outline, List.cons_append, List.map_cons, List.map_append,
        List.append_assoc, List.cons.injEq] at same
      obtain ⟨heads, tails⟩ := same
      obtain ⟨within, tails⟩ := inside (shallow_outlineAll_append shallow others)
        (shallow_outlineAll_append level siblings) tails
      obtain ⟨after, tails⟩ := later shallow level tails
      simp only [face, Explanation.value, description, Explanation.label, Face.mk.injEq, true_and]
        at heads
      simp only [shownAll, shown, within, after, heads, tails, and_self]

/-- What is shown determines the lines. -/
theorem map_face_outlineAll {depth : Nat} (same : shownAll es = shownAll fs) :
    (outlineAll depth es).map face = (outlineAll depth fs).map face := by
  induction es using induct_list generalizing fs depth with
  | nil =>
    cases fs with
    | nil => rfl
    | cons f _ => cases same
  | cons value label isMatch details others inside later =>
    cases fs with
    | nil => cases same
    | cons f siblings =>
      obtain ⟨amount, name, holds, parts⟩ := f
      simp only [shownAll, shown, List.cons.injEq, Shown.node.injEq] at same
      obtain ⟨⟨values, names, within⟩, after⟩ := same
      simp only [outlineAll, outline, List.map_append, List.map_cons, inside within, later after, face,
        Explanation.value, description, Explanation.label, values, names]

theorem outlineAll_singleton (depth : Nat) (e : Explanation) :
    outlineAll depth [e] = e.outline depth := by
  rw [outlineAll, outlineAll, List.append_nil]

/-- Explanations with the same lines show the same, and the other way round. -/
theorem faces_eq_iff : e.faces = f.faces ↔ e.shown = f.shown := by
  rw [faces, faces, ← outlineAll_singleton, ← outlineAll_singleton]
  constructor
  · intro same
    have ends : Shallow 0 [] := nofun
    have equal : shownAll [e] = shownAll [f] := (outlineAll_unique ends ends (by rw [same])).1
    exact (List.cons.inj equal).1
  · intro same
    exact map_face_outlineAll (by simp only [shownAll, same])

/-- The line of the node at the end of a way. -/
def lineAt? (e : Explanation) (way : List Nat) : Option (List Char) :=
  (e.at? way).map fun node => List.replicate (2 * way.length) ' ' ++ node.summary.toList

/-- The printed form of an explanation has one line for each node, parents before children and the
details of a node in order, with two blanks for each level in front. It can be read back:
explanations without line breaks are printed alike exactly if they show the same. -/
theorem printed_form_reads_back {e f : Explanation} (unbroken : e.Unbroken)
    (whole : f.Unbroken) :
    (∃ ways : List (List Nat), ways.Pairwise (· < ·) ∧
      (∀ way, way ∈ ways ↔ (e.at? way).isSome) ∧
      e.text.toList.splitOn '\n' = ways.filterMap e.lineAt? ++ [[]]) ∧
    (e.text = f.text ↔ e.shown = f.shown) := by
  refine ⟨⟨e.ways, ?_, fun way => mem_ways, ?_⟩, ?_⟩
  · have listed := pairwise_waysAll 0 [e]
    rw [waysAll, waysAll, List.append_nil, List.pairwise_map] at listed
    simpa only [List.cons_lt_cons_self] using listed
  · rw [unbroken.splitOn_text, faces, outline_eq_filterMap, List.map_filterMap, List.map_filterMap]
    simp only [Option.map_map, Function.comp_def, line_face]
    rfl
  · rw [← faces_eq_iff]
    constructor
    · intro same
      have lines : e.faces.map Face.line = f.faces.map Face.line := by
        have split := unbroken.splitOn_text
        rw [same, whole.splitOn_text] at split
        exact (List.append_cancel_right split).symm
      have read := congrArg (List.map Face.read) lines
      simpa only [faces, List.map_map, Function.comp_def, read_line_face] using read
    · intro same
      rw [← String.toList_inj, toList_text, toList_text, same]

/-- Two values and their product, one described in words that look like a value of their own. -/
def boostedRarity (isMatch : Bool) : Explanation :=
  .node 3.0 .product isMatch [leaf 2.0 .boost, leaf 1.5 (.other "1.0 = idf")]

theorem unbroken_boostedRarity (isMatch : Bool) : (boostedRarity isMatch).Unbroken := by
  intro way node found
  have listed : way ∈ (boostedRarity isMatch).ways := mem_ways.mpr (by rw [found]; rfl)
  simp only [boostedRarity, leaf, matched, ways, waysAll, List.map_cons, List.map_nil,
    List.append_nil, List.singleton_append, List.mem_cons, List.not_mem_nil, or_false] at listed
  rcases listed with rfl | rfl | rfl <;> cases found <;> decide +revert

theorem boostedRarity_reads_back : (boostedRarity true).Unbroken ∧ (boostedRarity false).Unbroken ∧
    (boostedRarity true).text = (boostedRarity false).text ∧
    ∃ ways : List (List Nat), ways.Pairwise (· < ·) ∧
      (∀ way, way ∈ ways ↔ ((boostedRarity true).at? way).isSome) ∧
      (boostedRarity true).text.toList.splitOn '\n' =
        ways.filterMap (boostedRarity true).lineAt? ++ [[]] := by
  have reads := printed_form_reads_back (unbroken_boostedRarity true) (unbroken_boostedRarity false)
  exact ⟨unbroken_boostedRarity true, unbroken_boostedRarity false, reads.2.mpr rfl, reads.1⟩

end Explanation

end Relevance
