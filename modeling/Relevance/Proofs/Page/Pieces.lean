import Relevance.Proofs.Page.Matching

/-
Markup is laid out in pieces: stretches in which no tag of a telling element begins, tags, and
comments, scripts and styles as wholes. Where no tag reaches over what follows it (`Laid`), exactly
the hidden pieces are blanked out (`blankOut_markupOf`).
-/

set_option autoImplicit false

namespace Relevance.Markup

open Pattern

variable {text front inner region rest : List Char} {name : String}

/-- The elements that are never text. -/
def silencedNames : List String := ["script", "style"]

/-- The elements by which the title and the body of a page are found. -/
def partNames : List String := ["title", "body", "head"]

/-- The elements whose tags decide what is read of a page. -/
def tellingNames : List String := silencedNames ++ partNames

theorem telling_of_silenced (silenced : name ∈ silencedNames) : name ∈ tellingNames :=
  List.mem_append_left _ silenced

theorem plain_of_telling (telling : name ∈ tellingNames) : '>' ∉ name.toList := by
  revert name
  decide

theorem ledBy_openTag (telling : name ∈ tellingNames) :
    (openTag name).LedBy ('<' :: name.toList) := by
  rw [openTag_eq (plain_of_telling telling)]
  apply ledBy_bracketed
  intro inner fit
  exact List.isPrefixOf_iff_prefix.mp fit

theorem ledBy_closeTag (telling : name ∈ tellingNames) :
    (closeTag name).LedBy ('<' :: '/' :: name.toList) := by
  rw [closeTag_eq (plain_of_telling telling)]
  apply ledBy_bracketed
  intro inner fit
  exact List.isPrefixOf_iff_prefix.mp (Bool.and_eq_true_iff.mp fit).1

theorem ledBy_element (telling : name ∈ tellingNames) :
    (element name).LedBy ('<' :: name.toList) :=
  (ledBy_openTag telling).enclosed _

theorem ledBy_comment : comment.LedBy "<!--".toList :=
  (ledBy_literal _).enclosed _

theorem hidden_eq_some_iff {length : Nat} : hidden text = some length ↔
    comment text = some length ∨ element "script" text = some length ∨
      element "style" text = some length := by
  have script : (element "script").LedBy "<script".toList := ledBy_element (by decide)
  have style : (element "style").LedBy "<style".toList := ledBy_element (by decide)
  rw [hidden, orElse, orElse, Option.or_eq_some_iff, Option.or_eq_some_iff]
  constructor
  · rintro (taken | ⟨-, taken | ⟨-, taken⟩⟩)
    · exact .inl taken
    · exact .inr (.inl taken)
    · exact .inr (.inr taken)
  · rintro (taken | taken | taken)
    · exact .inl taken
    · have here := script.stands taken
      exact .inr ⟨ledBy_comment.eq_none here (by decide) (by decide), .inl taken⟩
    · have here := style.stands taken
      exact .inr ⟨ledBy_comment.eq_none here (by decide) (by decide),
        .inr ⟨script.eq_none here (by decide) (by decide), taken⟩⟩

theorem element_append (telling : name ∈ tellingNames) {length : Nat}
    (taken : element name text = some length) (rest : List Char) :
    element name (text ++ rest) = some length := by
  refine enclosed_append ?_ ?_ taken rest
  · rw [openTag_eq (plain_of_telling telling)]
    exact steady_bracketed _
  · rw [closeTag_eq (plain_of_telling telling)]
    exact steady_bracketed _

/-- What is hidden is told by itself. -/
theorem hidden_append {length : Nat} (taken : hidden text = some length) (rest : List Char) :
    hidden (text ++ rest) = some length := by
  rw [hidden_eq_some_iff] at taken ⊢
  rcases taken with taken | taken | taken
  · exact .inl (enclosed_append (steady_literal _) (steady_literal _) taken rest)
  · exact .inr (.inl (element_append (by decide) taken rest))
  · exact .inr (.inr (element_append (by decide) taken rest))

theorem closed_of_element (telling : name ∈ tellingNames)
    (whole : element name region = some region.length) : ['>'] <:+ region := by
  obtain ⟨last, inside, taken⟩ := exists_suffix_of_enclosed whole
  rw [closeTag_eq (plain_of_telling telling)] at taken
  exact (closed_of_bracketed taken).trans inside

theorem closed_of_comment (whole : comment region = some region.length) : ['>'] <:+ region := by
  obtain ⟨last, inside, taken⟩ := exists_suffix_of_enclosed whole
  have same : last = "-->".toList := by
    have here := (ledBy_literal _).stands taken
    rw [literal_eq, if_pos (List.isPrefixOf_iff_prefix.mpr here)] at taken
    have folded := here.eq_of_length ((Option.some.inj taken).trans (List.length_map _).symm)
    exact eq_of_map_foldCase folded.symm rfl
  rw [same] at inside
  exact List.IsSuffix.trans (by decide) inside

theorem closed_of_hidden (whole : hidden region = some region.length) : ['>'] <:+ region := by
  rcases hidden_eq_some_iff.mp whole with whole | whole | whole
  · exact closed_of_comment whole
  · exact closed_of_element (by decide) whole
  · exact closed_of_element (by decide) whole

/-- What comments and the tags of telling elements begin with. -/
def leads : List (List Char) :=
  "<!--".toList :: tellingNames.flatMap fun name =>
    ['<' :: name.toList, '<' :: '/' :: name.toList]

theorem openTag_lead_mem (telling : name ∈ tellingNames) : '<' :: name.toList ∈ leads :=
  List.mem_cons_of_mem _ (List.mem_flatMap.mpr ⟨name, telling, List.mem_cons_self⟩)

theorem closeTag_lead_mem (telling : name ∈ tellingNames) : '<' :: '/' :: name.toList ∈ leads :=
  List.mem_cons_of_mem _
    (List.mem_flatMap.mpr ⟨name, telling, List.mem_cons_of_mem _ List.mem_cons_self⟩)

theorem lead_spec : ∀ lead ∈ leads, lead.head? = some '<' ∧ '>' ∉ lead := by
  decide

/-- A text in which no comment and no telling tag begins, cut off ones at its end included. -/
def Inert (text : List Char) : Prop :=
  ∀ suffix, suffix ≠ [] → suffix <:+ text → ∀ lead ∈ leads,
    ¬ lead <+: suffix.map foldCase ∧ ¬ suffix.map foldCase <+: lead

instance (text : List Char) : Decidable (Inert text) :=
  decidable_of_iff (∀ suffix ∈ text.tails, suffix ≠ [] → ∀ lead ∈ leads,
      ¬ lead <+: suffix.map foldCase ∧ ¬ suffix.map foldCase <+: lead) <| by
    simp only [List.mem_tails]
    exact ⟨fun inert suffix nonempty inside => inert suffix inside nonempty,
      fun inert suffix inside nonempty => inert suffix nonempty inside⟩

theorem Inert.silent {pattern : Pattern} {lead : List Char} (inert : Inert front)
    (led : pattern.LedBy lead) (member : lead ∈ leads) (rest : List Char) :
    Silent pattern front rest := by
  intro suffix nonempty inside
  obtain ⟨longer, shorter⟩ := inert suffix nonempty inside lead member
  apply led.eq_none _ longer shorter
  rw [List.map_append]
  exact List.prefix_append _ _

theorem Inert.silent_hidden (inert : Inert front) (rest : List Char) :
    Silent hidden front rest := by
  have noComment := inert.silent ledBy_comment (by decide) rest
  have noElement {name : String} (telling : name ∈ tellingNames) :
      Silent (element name) front rest :=
    inert.silent (ledBy_element telling) (openTag_lead_mem telling) rest
  intro suffix nonempty inside
  rw [hidden, orElse, orElse, noComment suffix nonempty inside,
    noElement (by decide) suffix nonempty inside, noElement (by decide) suffix nonempty inside]
  rfl

theorem inert_of_not_mem (plain : '<' ∉ text) : Inert text := by
  intro suffix nonempty inside lead member
  obtain ⟨c, more, rfl⟩ := List.exists_cons_of_ne_nil nonempty
  obtain ⟨d, lead, rfl⟩ := List.exists_cons_of_ne_nil (l := lead) (by
    rintro rfl
    exact absurd (lead_spec _ member).1 (by decide))
  have first : d = '<' := Option.some.inj (lead_spec _ member).1
  have other : foldCase c ≠ d := by
    intro same
    have bracket : c = '<' := eq_of_foldCase (same.trans first) rfl
    exact plain (inside.mem (bracket ▸ List.mem_cons_self))
  rw [List.map_cons, List.cons_prefix_cons, List.cons_prefix_cons]
  exact ⟨fun found => other found.1.symm, fun found => other found.1⟩

/-- A pattern of the opening or the closing tags of a telling element. -/
structure Telling (pattern : Pattern) : Prop where
  bracketed : ∃ fits, pattern = Pattern.bracketed fits
  led : ∃ lead ∈ leads, pattern.LedBy lead

theorem telling_openTag (telling : name ∈ tellingNames) : Telling (openTag name) where
  bracketed := ⟨_, openTag_eq (plain_of_telling telling)⟩
  led := ⟨_, openTag_lead_mem telling, ledBy_openTag telling⟩

theorem telling_closeTag (telling : name ∈ tellingNames) : Telling (closeTag name) where
  bracketed := ⟨_, closeTag_eq (plain_of_telling telling)⟩
  led := ⟨_, closeTag_lead_mem telling, ledBy_closeTag telling⟩

theorem Telling.silent {pattern : Pattern} (telling : Telling pattern) (inert : Inert front)
    (rest : List Char) : Silent pattern front rest := by
  obtain ⟨lead, member, led⟩ := telling.led
  exact inert.silent led member rest

theorem Telling.search_eq_none {pattern : Pattern} (telling : Telling pattern)
    (silent : Silent pattern front []) : pattern.search front = none := by
  obtain ⟨fits, rfl⟩ := telling.bracketed
  exact search_eq_none_iff.mpr ⟨silent, bracketed_of_not_mem fits List.not_mem_nil⟩

end Relevance.Markup

namespace Relevance

open Pattern Markup

inductive Piece where
  /-- Any text in which no comment and no telling tag begins. -/
  | text (chars : List Char)
  /-- A tag, without its angle brackets. -/
  | tag (inner : List Char)
  /-- A comment, script or style with its tags. -/
  | hidden (region : List Char)

namespace Piece

variable {pattern : Pattern} {inner chars region : List Char} {piece : Piece} {pieces : List Piece}

def markup : Piece → List Char
  | text chars => chars
  | tag inner => '<' :: (inner ++ ['>'])
  | hidden region => region

def markupOf (pieces : List Piece) : List Char :=
  pieces.flatMap markup

def WellFormed : Piece → Prop
  | text chars => Inert chars
  | tag inner => '>' ∉ inner ∧ Inert (inner ++ ['>']) ∧ ¬ "!--".toList <+: inner
  | hidden region => Markup.hidden region = some region.length

instance (piece : Piece) : Decidable piece.WellFormed :=
  match piece with
  | text chars => inferInstanceAs (Decidable (Inert chars))
  | tag inner => inferInstanceAs
      (Decidable ('>' ∉ inner ∧ Inert (inner ++ ['>']) ∧ ¬ "!--".toList <+: inner))
  | hidden region => inferInstanceAs (Decidable (Markup.hidden region = some region.length))

/-- A piece with a blank in place of what is hidden. -/
def exposed : Piece → Piece
  | hidden _ => text [' ']
  | piece => piece

def has (pattern : Pattern) (piece : Piece) : Bool :=
  (pattern.search piece.markup).isSome

/-- A tag is taken for the beginning of a script or style that ends in a later piece. -/
def Overreaches : Piece → Piece → Prop
  | tag inner, later => ∃ name ∈ silencedNames,
      (tag inner).has (openTag name) = true ∧ later.has (closeTag name) = true
  | _, _ => False

instance (earlier later : Piece) : Decidable (earlier.Overreaches later) :=
  match earlier with
  | .tag inner => inferInstanceAs (Decidable (∃ name ∈ silencedNames,
      (tag inner).has (openTag name) = true ∧ later.has (closeTag name) = true))
  | .text _ | .hidden _ => isFalse id

/-- Well-formed pieces of which none reaches over another. -/
structure Laid (pieces : List Piece) : Prop where
  wellFormed : ∀ piece ∈ pieces, piece.WellFormed
  apart : pieces.Pairwise fun earlier later => ¬ earlier.Overreaches later

theorem markupOf_cons (piece : Piece) (pieces : List Piece) :
    markupOf (piece :: pieces) = piece.markup ++ markupOf pieces :=
  List.flatMap_cons

theorem markupOf_append (earlier later : List Piece) :
    markupOf (earlier ++ later) = markupOf earlier ++ markupOf later :=
  List.flatMap_append

theorem laid_cons_iff : Laid (piece :: pieces) ↔
    piece.WellFormed ∧ (∀ later ∈ pieces, ¬ piece.Overreaches later) ∧ Laid pieces := by
  constructor
  · rintro ⟨wellFormed, apart⟩
    rw [List.forall_mem_cons] at wellFormed
    rw [List.pairwise_cons] at apart
    exact ⟨wellFormed.1, apart.1, wellFormed.2, apart.2⟩
  · rintro ⟨wellFormed, apart, later⟩
    exact ⟨List.forall_mem_cons.mpr ⟨wellFormed, later.wellFormed⟩,
      List.pairwise_cons.mpr ⟨apart, later.apart⟩⟩

theorem Laid.sublist {fewer : List Piece} (laid : Laid pieces) (inside : fewer.Sublist pieces) :
    Laid fewer where
  wellFormed := fun piece member => laid.wellFormed piece (inside.mem member)
  apart := laid.apart.sublist inside

theorem has_text (inert : Inert chars) (telling : Telling pattern) :
    (text chars).has pattern = false := by
  have absent : pattern.search chars = none := telling.search_eq_none (telling.silent inert [])
  rw [has, markup, absent]
  rfl

theorem WellFormed.silent (wellFormed : piece.WellFormed) (telling : Telling pattern)
    (absent : piece.has pattern = false) (rest : List Char) :
    Silent pattern piece.markup rest := by
  obtain ⟨fits, rfl⟩ := telling.bracketed
  have absent : (bracketed fits).search piece.markup = none :=
    Option.isNone_iff_eq_none.mp (Option.isSome_eq_false_iff.mp absent)
  cases piece with
  | text chars => exact telling.silent wellFormed rest
  | tag inner =>
    exact silent_of_search_eq_none (List.suffix_append ('<' :: inner) ['>']) absent rest
  | hidden region => exact silent_of_search_eq_none (closed_of_hidden wellFormed) absent rest

theorem markup_tag_append (inner rest : List Char) :
    (tag inner).markup ++ rest = '<' :: inner ++ '>' :: rest := by
  rw [markup, ← List.cons_append, List.append_assoc, List.singleton_append]

theorem bracketed_tag (fits : List Char → Bool) (closed : '>' ∉ inner) (rest : List Char) :
    bracketed fits ((tag inner).markup ++ rest) =
      if fits ('<' :: inner) then some (tag inner).markup.length else none := by
  have closed : '>' ∉ '<' :: inner := List.not_mem_cons_of_ne_of_not_mem (by decide) closed
  have size : (tag inner).markup.length = ('<' :: inner).length + 1 :=
    congrArg Nat.succ List.length_append
  rw [markup_tag_append, bracketed_append fits closed, size]

/-- A tag in which a pattern is found is a match as a whole. -/
theorem WellFormed.taken (wellFormed : (tag inner).WellFormed) (telling : Telling pattern)
    (found : (tag inner).has pattern = true) (rest : List Char) :
    pattern ((tag inner).markup ++ rest) = some (tag inner).markup.length := by
  obtain ⟨closed, inert, -⟩ := wellFormed
  have later : pattern.search (inner ++ ['>']) = none :=
    telling.search_eq_none (telling.silent inert [])
  obtain ⟨fits, rfl⟩ := telling.bracketed
  rw [bracketed_tag fits closed]
  split
  · rfl
  · rename_i unfit
    have alone := bracketed_tag fits closed []
    rw [List.append_nil, if_neg unfit, markup] at alone
    rw [has, markup, search, alone, later] at found
    cases found

theorem silent_markupOf (telling : Telling pattern)
    (wellFormed : ∀ piece ∈ pieces, piece.WellFormed)
    (absent : ∀ piece ∈ pieces, piece.has pattern = false) (rest : List Char) :
    Silent pattern (markupOf pieces) rest := by
  induction pieces with
  | nil => exact silent_nil pattern rest
  | cons piece pieces ih =>
    rw [List.forall_mem_cons] at wellFormed absent
    rw [markupOf_cons]
    exact silent_append (wellFormed.1.silent telling absent.1 _) (ih wellFormed.2 absent.2)

theorem search_markupOf_eq_none (telling : Telling pattern)
    (wellFormed : ∀ piece ∈ pieces, piece.WellFormed)
    (absent : ∀ piece ∈ pieces, piece.has pattern = false) :
    pattern.search (markupOf pieces) = none :=
  telling.search_eq_none (silent_markupOf telling wellFormed absent [])

theorem comment_tag (wellFormed : (tag inner).WellFormed) (rest : List Char) :
    comment ((tag inner).markup ++ rest) = none := by
  cases taken : comment ((tag inner).markup ++ rest) with
  | none => rfl
  | some length =>
    have here := ledBy_comment.stands taken
    rw [markup_tag_append, ← List.isPrefixOf_iff_prefix, isPrefixOf_map_append (by decide),
      List.isPrefixOf_iff_prefix] at here
    have begun := prefix_of_map_foldCase here rfl
    exact absurd (List.cons_prefix_cons.mp begun).2 wellFormed.2.2

theorem element_tag {name : String} (telling : name ∈ tellingNames)
    (wellFormed : (tag inner).WellFormed) {rest : List Char}
    (unclosed : (tag inner).has (openTag name) = true → (closeTag name).search rest = none) :
    element name ((tag inner).markup ++ rest) = none := by
  rw [element, enclosed]
  cases found : (tag inner).has (openTag name) with
  | true =>
    rw [wellFormed.taken (telling_openTag telling) found]
    change Option.bind ((closeTag name).search (List.drop _ _)) _ = none
    rw [List.drop_left, unclosed found]
    rfl
  | false =>
    have absent := wellFormed.silent (telling_openTag telling) found rest _
      (List.cons_ne_nil '<' (inner ++ ['>'])) (List.suffix_refl _)
    rw [markup, absent]
    rfl

/-- A tag that does not reach over later pieces is not hidden. -/
theorem hidden_tag (wellFormed : (tag inner).WellFormed)
    (later : ∀ piece ∈ pieces, piece.WellFormed)
    (apart : ∀ piece ∈ pieces, ¬ (tag inner).Overreaches piece) :
    Markup.hidden ((tag inner).markup ++ markupOf pieces) = none := by
  have absent {name : String} (silenced : name ∈ silencedNames) :
      element name ((tag inner).markup ++ markupOf pieces) = none := by
    apply element_tag (telling_of_silenced silenced) wellFormed
    intro found
    apply search_markupOf_eq_none (telling_closeTag (telling_of_silenced silenced)) later
    intro piece inside
    exact eq_false_of_ne_true fun closes => apart piece inside ⟨name, silenced, found, closes⟩
  rw [Markup.hidden, orElse, orElse, comment_tag wellFormed, absent (by decide),
    absent (by decide)]
  rfl

/-- Exactly the hidden pieces are blanked out. -/
theorem blankOut_markupOf (laid : Laid pieces) :
    Markup.hidden.blankOut (markupOf pieces) = markupOf (pieces.map exposed) := by
  induction pieces with
  | nil => rfl
  | cons piece pieces ih =>
    obtain ⟨wellFormed, apart, later⟩ := laid_cons_iff.mp laid
    rw [List.map_cons, markupOf_cons, markupOf_cons, ← ih later]
    cases piece with
    | text chars => exact blankOut_append (Inert.silent_hidden wellFormed _)
    | tag inner =>
      -- Only at its bracket can a tag be taken for something hidden, and then it would reach over.
      apply blankOut_append
      apply silent_cons_iff.mpr
      exact ⟨hidden_tag wellFormed later.wellFormed apart, wellFormed.2.1.silent_hidden _⟩
    | hidden region =>
      have nonempty : region ≠ [] := by
        rintro rfl
        exact absurd (closed_of_hidden wellFormed) (by decide)
      exact blankOut_of_whole nonempty (hidden_append wellFormed _)

theorem inert_blank : Inert [' '] :=
  inert_of_not_mem (by decide)

theorem WellFormed.exposed (wellFormed : piece.WellFormed) : piece.exposed.WellFormed := by
  cases piece with
  | text chars => exact wellFormed
  | tag inner => exact wellFormed
  | hidden region => exact inert_blank

theorem not_overreaches_text (inert : Inert chars) : ¬ piece.Overreaches (text chars) := by
  cases piece with
  | tag inner =>
    rintro ⟨name, silenced, -, closes⟩
    rw [has_text inert (telling_closeTag (telling_of_silenced silenced))] at closes
    cases closes
  | text _ => exact id
  | hidden _ => exact id

theorem exposed_exposed (piece : Piece) : piece.exposed.exposed = piece.exposed := by
  cases piece <;> rfl

theorem Laid.exposed (laid : Laid pieces) : Laid (pieces.map exposed) where
  wellFormed := by
    intro piece member
    obtain ⟨original, inside, rfl⟩ := List.mem_map.mp member
    exact (laid.wellFormed original inside).exposed
  apart := by
    rw [List.pairwise_map]
    apply laid.apart.imp
    intro earlier later apart
    cases later with
    | hidden region => exact not_overreaches_text inert_blank
    | text chars => cases earlier <;> exact apart
    | tag inner => cases earlier <;> exact apart

end Piece

end Relevance
