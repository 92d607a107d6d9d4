import Relevance.Proofs.Page.Line
import Relevance.Proofs.Page.Pieces

set_option autoImplicit false

namespace Relevance.Entity

open Pattern

/-- Without an ampersand nothing stands for a character. -/
theorem decode_of_not_mem {text : List Char} (plain : '&' ∉ text) : decode text = text := by
  have silent : Silent atStart? text [] := by
    intro suffix nonempty inside
    obtain ⟨c, more, rfl⟩ := List.exists_cons_of_ne_nil nonempty
    have other : c ≠ '&' := by
      rintro rfl
      exact plain (inside.mem List.mem_cons_self)
    rw [List.cons_append, atStart?]
    simpa using other
  have kept := replaceFrom_append silent
  rwa [List.append_nil, replaceFrom, List.append_nil] at kept

end Relevance.Entity

namespace Relevance.Piece

open Pattern Markup

variable {piece : Piece} {pieces : List Piece}

/-- What is shown of a piece: a text as it stands, and a blank for all else. -/
def shown : Piece → List Char
  | text chars => chars
  | tag _ => [' ']
  | hidden _ => [' ']

theorem tag_cons_of_ne {c : Char} (other : c ≠ '<') (text : List Char) :
    Markup.tag (c :: text) = none := by
  rw [Markup.tag, followedBy, literal, if_neg fun folded => other (eq_of_foldCase folded rfl)]
  rfl

theorem blankOut_tag_of_not_mem {chars : List Char} (plain : '<' ∉ chars) (rest : List Char) :
    Markup.tag.blankOut (chars ++ rest) = chars ++ Markup.tag.blankOut rest := by
  apply blankOut_append
  intro suffix nonempty inside
  obtain ⟨c, more, rfl⟩ := List.exists_cons_of_ne_nil nonempty
  apply tag_cons_of_ne
  rintro rfl
  exact plain (inside.mem List.mem_cons_self)

theorem blankOut_tag_exposed (wellFormed : ∀ piece ∈ pieces, piece.WellFormed)
    (plain : ∀ chars, text chars ∈ pieces → '<' ∉ chars) :
    Markup.tag.blankOut (markupOf (pieces.map exposed)) = pieces.flatMap shown := by
  have blank : '<' ∉ [' '] := by decide
  induction pieces with
  | nil => rfl
  | cons piece pieces ih =>
    rw [List.forall_mem_cons] at wellFormed
    have ih := ih wellFormed.2 fun chars member => plain chars (List.mem_cons_of_mem _ member)
    rw [List.map_cons, markupOf_cons, List.flatMap_cons, ← ih]
    cases piece with
    | text chars => exact blankOut_tag_of_not_mem (plain chars List.mem_cons_self) _
    | hidden region => exact blankOut_tag_of_not_mem blank _
    | tag inner =>
      apply blankOut_of_whole (List.cons_ne_nil _ _)
      rw [tag_eq]
      exact bracketed_tag _ wellFormed.1.1 _

/-- What is read of laid out pieces without references in them. -/
theorem visibleText_markupOf (laid : Laid pieces)
    (plain : ∀ chars, text chars ∈ pieces → '<' ∉ chars ∧ '&' ∉ chars) :
    visibleText (markupOf pieces) = [' '].intercalate (runs (pieces.flatMap shown)) := by
  have blank : '&' ∉ [' '] := by decide
  have unmarked : '&' ∉ pieces.flatMap shown := by
    intro member
    obtain ⟨piece, inside, member⟩ := List.mem_flatMap.mp member
    cases piece with
    | text chars => exact (plain chars inside).2 member
    | tag inner => exact blank member
    | hidden region => exact blank member
  rw [visibleText, blankOut_markupOf laid,
    blankOut_tag_exposed laid.wellFormed fun chars member => (plain chars member).1,
    Entity.decode_of_not_mem unmarked, collapseBlanks_eq]

def isName : List Char → Bool
  | [] => false
  | c :: more => c.isAlpha && more.all fun d => d.isAlphanum || d = '-'

def isAttributes (attributes : List Char) : Bool :=
  (attributes.isEmpty || attributes.head? = some ' ') && '<' ∉ attributes && '>' ∉ attributes

abbrev opening (name attributes : List Char) : Piece :=
  tag (name ++ attributes)

abbrev closing (name attributes : List Char) : Piece :=
  tag ('/' :: (name ++ attributes))

abbrev comment (content : List Char) : Piece :=
  hidden ("<!--".toList ++ (content ++ "-->".toList))

abbrev element (first attributes content last blanks : List Char) : Piece :=
  hidden ((opening first attributes).markup ++ (content ++ (closing last blanks).markup))

inductive Ordinary : Piece → Prop
  | text {chars : List Char} (unmarked : '<' ∉ chars) (plain : '&' ∉ chars) :
      Ordinary (text chars)
  | opening {name attributes : List Char} (named : isName name = true)
      (other : ∀ silenced ∈ silencedNames, name.map foldCase ≠ silenced.toList)
      (attributed : isAttributes attributes = true) : Ordinary (opening name attributes)
  | closing {name attributes : List Char} (named : isName name = true)
      (other : ∀ silenced ∈ silencedNames, name.map foldCase ≠ silenced.toList)
      (attributed : isAttributes attributes = true) : Ordinary (closing name attributes)
  | comment {content : List Char} (inside : ¬ "-->".toList <:+: content) :
      Ordinary (comment content)
  | element {name : String} {first attributes content last blanks : List Char}
      (silenced : name ∈ silencedNames) (opened : first.map foldCase = name.toList)
      (attributed : isAttributes attributes = true) (inside : ¬ "</".toList <:+: content)
      (closed : last.map foldCase = name.toList) (blank : blanks.all isBlank = true) :
      Ordinary (element first attributes content last blanks)

theorem not_mem_of_isName {name : List Char} (named : isName name = true) {c : Char}
    (other : (c.isAlphanum || c = '-') = false) : c ∉ name := by
  cases name with
  | nil => exact List.not_mem_nil
  | cons first more =>
    intro member
    rw [isName, Bool.and_eq_true_iff] at named
    have holds : (c.isAlphanum || decide (c = '-')) = true := by
      rcases List.mem_cons.mp member with rfl | later
      · rw [Char.isAlphanum, named.1]
        rfl
      · exact List.all_eq_true.mp named.2 c later
    rw [other] at holds
    cases holds

theorem unmarked_of_isAttributes {attributes : List Char}
    (attributed : isAttributes attributes = true) : '<' ∉ attributes ∧ '>' ∉ attributes := by
  rw [isAttributes, Bool.and_eq_true_iff, Bool.and_eq_true_iff, decide_eq_true_iff,
    decide_eq_true_iff] at attributed
  exact ⟨attributed.1.2, attributed.2⟩

theorem wellFormed_tag {inner : List Char} (unmarked : '<' ∉ inner) (closed : '>' ∉ inner)
    (first : inner.head? ≠ some '!') : (tag inner).WellFormed := by
  refine ⟨closed, inert_of_not_mem (List.not_mem_append unmarked (by decide)), ?_⟩
  intro begun
  obtain ⟨more, rfl⟩ := begun
  exact first rfl

theorem wellFormed_comment {content : List Char} (inside : ¬ "-->".toList <:+: content) :
    (comment content).WellFormed := by
  have silent := (ledBy_literal "-->".toList).silent_of_absent (List.prefix_refl _) rfl
    (by decide) inside []
  rw [List.append_nil] at silent
  have closes : literal "-->".toList "-->".toList = some "-->".toList.length := rfl
  have opens : literal "<!--".toList ("<!--".toList ++ (content ++ "-->".toList)) =
      some "<!--".toList.length := rfl
  exact hidden_eq_some_iff.mpr (.inl (enclosed_eq_length opens silent closes))

theorem bracket_not_mem {name : String} (telling : name ∈ tellingNames) {spelled : List Char}
    (same : spelled.map foldCase = name.toList) : '>' ∉ spelled := by
  intro member
  have folded : foldCase '>' ∈ spelled.map foldCase := List.mem_map_of_mem member
  rw [same] at folded
  exact plain_of_telling telling folded

theorem openTag_spelled {name : String} (telling : name ∈ tellingNames)
    {spelled attributes : List Char} (same : spelled.map foldCase = name.toList)
    (closed : '>' ∉ attributes) (rest : List Char) :
    openTag name ((opening spelled attributes).markup ++ rest) =
      some (opening spelled attributes).markup.length := by
  have closed : '>' ∉ spelled ++ attributes := by
    rw [List.mem_append, not_or]
    exact ⟨bracket_not_mem telling same, closed⟩
  rw [openTag_eq (plain_of_telling telling), bracketed_tag _ closed, if_pos]
  rw [List.isPrefixOf_iff_prefix, List.map_cons, List.map_append, same]
  exact List.prefix_append ('<' :: name.toList) _

theorem closeTag_spelled {name : String} (telling : name ∈ tellingNames)
    {spelled blanks : List Char} (same : spelled.map foldCase = name.toList)
    (blank : blanks.all isBlank = true) (rest : List Char) :
    closeTag name ((closing spelled blanks).markup ++ rest) =
      some (closing spelled blanks).markup.length := by
  have closed : '>' ∉ '/' :: (spelled ++ blanks) := by
    rw [List.mem_cons, List.mem_append]
    rintro (bracket | member | member)
    · cases bracket
    · exact bracket_not_mem telling same member
    · exact absurd (List.all_eq_true.mp blank _ member) (by decide)
  have size : name.toList.length = spelled.length := by
    rw [← same, List.length_map]
  rw [closeTag_eq (plain_of_telling telling), bracketed_tag _ closed, if_pos]
  rw [Bool.and_eq_true_iff, List.drop_succ_cons, List.drop_succ_cons, size, List.drop_left]
  refine ⟨?_, blank⟩
  rw [List.isPrefixOf_iff_prefix, List.map_cons, List.map_cons, List.map_append, same]
  exact List.prefix_append ('<' :: '/' :: name.toList) _

theorem wellFormed_element {name : String} {first attributes content last blanks : List Char}
    (silenced : name ∈ silencedNames) (opened : first.map foldCase = name.toList)
    (attributed : isAttributes attributes = true) (inside : ¬ "</".toList <:+: content)
    (closed : last.map foldCase = name.toList) (blank : blanks.all isBlank = true) :
    (element first attributes content last blanks).WellFormed := by
  have telling := telling_of_silenced silenced
  have silent := (ledBy_closeTag telling).silent_of_absent
    (List.prefix_append "</".toList name.toList) rfl (by decide) inside
    (last ++ blanks ++ ['>'])
  have closes := closeTag_spelled telling closed blank []
  rw [List.append_nil] at closes
  have opens := openTag_spelled telling opened (unmarked_of_isAttributes attributed).2
    (content ++ (closing last blanks).markup)
  have whole := enclosed_eq_length opens silent closes
  apply hidden_eq_some_iff.mpr
  rcases List.mem_cons.mp silenced with rfl | silenced
  · exact .inr (.inl whole)
  · rw [List.mem_singleton.mp silenced] at whole
    exact .inr (.inr whole)

theorem wellFormed_opening {name attributes : List Char} (named : isName name = true)
    (attributed : isAttributes attributes = true) : (opening name attributes).WellFormed := by
  obtain ⟨unmarked, closed⟩ := unmarked_of_isAttributes attributed
  apply wellFormed_tag
  · exact List.not_mem_append (not_mem_of_isName named (by decide)) unmarked
  · exact List.not_mem_append (not_mem_of_isName named (by decide)) closed
  · intro first
    have other : '!' ∉ name := not_mem_of_isName named (by decide)
    cases name with
    | nil => cases named
    | cons c more =>
      cases first
      exact other List.mem_cons_self

theorem wellFormed_closing {name attributes : List Char} (named : isName name = true)
    (attributed : isAttributes attributes = true) : (closing name attributes).WellFormed := by
  obtain ⟨unmarked, closed⟩ := unmarked_of_isAttributes attributed
  apply wellFormed_tag
  · exact List.not_mem_cons_of_ne_of_not_mem (by decide)
      (List.not_mem_append (not_mem_of_isName named (by decide)) unmarked)
  · exact List.not_mem_cons_of_ne_of_not_mem (by decide)
      (List.not_mem_append (not_mem_of_isName named (by decide)) closed)
  · nofun

theorem Ordinary.wellFormed (ordinary : piece.Ordinary) : piece.WellFormed := by
  cases ordinary with
  | text unmarked plain => exact inert_of_not_mem unmarked
  | opening named other attributed => exact wellFormed_opening named attributed
  | closing named other attributed => exact wellFormed_closing named attributed
  | comment inside => exact wellFormed_comment inside
  | element silenced opened attributed inside closed blank =>
    exact wellFormed_element silenced opened attributed inside closed blank

/-- Of an ordinary page in which no tag is taken for the beginning of a script or style, all texts
are read, with white space between them where anything else stood. -/
theorem visibleText_of_ordinary (ordinary : ∀ piece ∈ pieces, piece.Ordinary)
    (apart : pieces.Pairwise fun earlier later => ¬ earlier.Overreaches later) :
    visibleText (markupOf pieces) = [' '].intercalate (runs (pieces.flatMap shown)) := by
  have laid : Laid pieces := ⟨fun piece member => (ordinary piece member).wellFormed, apart⟩
  apply visibleText_markupOf laid
  intro chars member
  cases ordinary _ member with
  | text unmarked plain => exact ⟨unmarked, plain⟩

/-- A page with a piece of each kind. No script ends behind the tag with the longer name. -/
def crabPage : List Piece := [
  opening "h1".toList " class=main".toList, text " Crabs\n".toList, closing "h1".toList [],
  comment " <b> ".toList, text "walk".toList,
  element "SCRIPT".toList " defer".toList "a < b".toList "script".toList [' '],
  opening "scripture".toList [], text "\tsideways ".toList]

theorem crabPage_read : (∀ piece ∈ crabPage, piece.Ordinary) ∧
    (crabPage.Pairwise fun earlier later => ¬ earlier.Overreaches later) ∧
    visibleText (markupOf crabPage) = "Crabs walk sideways".toList := by
  have ordinary : ∀ piece ∈ crabPage, piece.Ordinary := by
    simp only [crabPage, List.forall_mem_cons]
    exact ⟨.opening rfl (by decide) rfl, .text (by decide) (by decide),
      .closing rfl (by decide) rfl, .comment (by decide), .text (by decide) (by decide),
      .element (show "script" ∈ silencedNames by decide) rfl rfl (by decide) rfl rfl,
      .opening rfl (by decide) rfl, .text (by decide) (by decide), nofun⟩
  have apart : crabPage.Pairwise fun earlier later => ¬ earlier.Overreaches later := by decide
  exact ⟨ordinary, apart, (visibleText_of_ordinary ordinary apart).trans (by decide)⟩

/-- A page with an element whose name begins like that of a style. -/
def guidePage : List Piece := [
  opening "style-guide".toList [], text "hello".toList, closing "style-guide".toList [],
  element "style".toList [] "p\x7b\x7d".toList "style".toList [], text "world".toList]

/-- The longer name is taken for a style, and what follows is lost up to the next style's end. -/
theorem guidePage_swallowed : (∀ piece ∈ guidePage, piece.Ordinary) ∧
    [' '].intercalate (runs (guidePage.flatMap shown)) = "hello world".toList ∧
    visibleText (markupOf guidePage) = "world".toList := by
  refine ⟨?_, by decide, by decide⟩
  simp only [guidePage, List.forall_mem_cons]
  exact ⟨.opening rfl (by decide) rfl, .text (by decide) (by decide), .closing rfl (by decide) rfl,
    .element (show "style" ∈ silencedNames by decide) rfl rfl (by decide) rfl rfl,
    .text (by decide) (by decide), nofun⟩

end Relevance.Piece
