import Relevance.Proofs.Page.Pieces

set_option autoImplicit false

namespace Relevance.Piece

open Pattern Markup

variable {pattern : Pattern} {inner front rest : List Piece} {piece : Piece} {pieces : List Piece}

/-- The tags by which the title and the body of a page are found. -/
def partTags : List Pattern :=
  partNames.flatMap fun name => [openTag name, closeTag name]

theorem openTag_mem {name : String} (part : name ∈ partNames) : openTag name ∈ partTags :=
  List.mem_flatMap.mpr ⟨name, part, List.mem_cons_self⟩

theorem closeTag_mem {name : String} (part : name ∈ partNames) : closeTag name ∈ partTags :=
  List.mem_flatMap.mpr ⟨name, part, List.mem_cons_of_mem _ List.mem_cons_self⟩

theorem telling_of_mem (member : pattern ∈ partTags) : Telling pattern := by
  obtain ⟨name, part, member⟩ := List.mem_flatMap.mp member
  have telling : name ∈ tellingNames := List.mem_append_right _ part
  rcases List.mem_cons.mp member with rfl | member
  · exact telling_openTag telling
  · rw [List.mem_singleton.mp member]
    exact telling_closeTag telling

theorem leads_apart {name : String} (part : name ∈ partNames) :
    ¬ '<' :: name.toList <+: '<' :: '/' :: name.toList ∧
      ¬ '<' :: '/' :: name.toList <+: '<' :: name.toList := by
  revert name
  decide

/-- In a hidden piece there is none of these tags. -/
def Quiet : Piece → Prop
  | hidden region => ∀ pattern ∈ partTags, (hidden region).has pattern = false
  | _ => True

structure Readable (pieces : List Piece) : Prop extends Laid pieces where
  quiet : ∀ piece ∈ pieces, piece.Quiet

theorem Readable.sublist {fewer : List Piece} (readable : Readable pieces)
    (inside : fewer.Sublist pieces) : Readable fewer where
  toLaid := readable.toLaid.sublist inside
  quiet := fun piece member => readable.quiet piece (inside.mem member)

theorem has_exposed (quiet : piece.Quiet) (member : pattern ∈ partTags) :
    piece.exposed.has pattern = piece.has pattern := by
  cases piece with
  | text chars => rfl
  | tag inner => rfl
  | hidden region =>
    rw [quiet pattern member]
    exact has_text inert_blank (telling_of_mem member)

/-- A piece with one of these tags is that tag. -/
theorem taken_of_has (wellFormed : piece.WellFormed) (quiet : piece.Quiet)
    (member : pattern ∈ partTags) (found : piece.has pattern = true) (rest : List Char) :
    pattern (piece.markup ++ rest) = some piece.markup.length := by
  cases piece with
  | text chars =>
    rw [has_text wellFormed (telling_of_mem member)] at found
    cases found
  | tag inner => exact wellFormed.taken (telling_of_mem member) found rest
  | hidden region =>
    rw [quiet pattern member] at found
    cases found

/-- The pieces before and behind the first one in which a pattern is found. -/
def cut? (pattern : Pattern) : List Piece → Option (List Piece × List Piece)
  | [] => none
  | piece :: pieces =>
    if piece.has pattern then some ([], pieces)
    else (cut? pattern pieces).map fun parts => (piece :: parts.1, parts.2)

theorem cut?_eq_none (absent : cut? pattern pieces = none) :
    ∀ piece ∈ pieces, piece.has pattern = false := by
  induction pieces with
  | nil => nofun
  | cons piece pieces ih =>
    rw [cut?] at absent
    split at absent
    · cases absent
    · rename_i other
      exact List.forall_mem_cons.mpr
        ⟨eq_false_of_ne_true other, ih (Option.map_eq_none_iff.mp absent)⟩

theorem cut?_spec (found : cut? pattern pieces = some (front, rest)) :
    ∃ piece, pieces = front ++ piece :: rest ∧ (∀ other ∈ front, other.has pattern = false) ∧
      piece.has pattern = true := by
  induction pieces generalizing front with
  | nil => cases found
  | cons piece pieces ih =>
    rw [cut?] at found
    split at found
    · rename_i here
      cases found
      exact ⟨piece, rfl, nofun, here⟩
    · rename_i other
      obtain ⟨⟨front, rest⟩, later, same⟩ := Option.map_eq_some_iff.mp found
      cases same
      obtain ⟨closer, rfl, absent, here⟩ := ih later
      exact ⟨closer, rfl, List.forall_mem_cons.mpr ⟨eq_false_of_ne_true other, absent⟩, here⟩

theorem cut?_append (absent : ∀ other ∈ front, other.has pattern = false)
    (here : piece.has pattern = true) : cut? pattern (front ++ piece :: rest) =
      some (front, rest) := by
  induction front with
  | nil => rw [List.nil_append, cut?, if_pos here]
  | cons first front ih =>
    rw [List.forall_mem_cons] at absent
    rw [List.cons_append, cut?, if_neg (ne_true_of_eq_false absent.1), ih absent.2]
    rfl

theorem cut?_sublist {parts : List Piece × List Piece} (found : cut? pattern pieces = some parts) :
    parts.1.Sublist pieces ∧ parts.2.Sublist pieces := by
  obtain ⟨piece, rfl, -⟩ := cut?_spec found
  exact ⟨List.sublist_append_left _ _,
    (List.sublist_cons_self _ _).trans (List.sublist_append_right _ _)⟩

theorem cut?_exposed (readable : Readable pieces) (member : pattern ∈ partTags) :
    cut? pattern (pieces.map exposed) =
      (cut? pattern pieces).map fun parts => (parts.1.map exposed, parts.2.map exposed) := by
  induction pieces with
  | nil => rfl
  | cons piece pieces ih =>
    have same := has_exposed (readable.quiet piece List.mem_cons_self) member
    rw [List.map_cons, cut?, cut?, same, ih (readable.sublist (List.sublist_cons_self _ _))]
    split
    · rfl
    · rw [Option.map_map, Option.map_map]
      rfl

namespace Readable

theorem silent (readable : Readable pieces) (member : pattern ∈ partTags)
    (absent : ∀ piece ∈ pieces, piece.has pattern = false) (more : List Char) :
    Silent pattern (markupOf pieces) more :=
  silent_markupOf (telling_of_mem member) readable.wellFormed absent more

/-- The first tag of its kind is matched, and nothing is before it. -/
theorem first (readable : Readable pieces) (member : pattern ∈ partTags)
    (found : cut? pattern pieces = some (front, rest)) :
    ∃ piece, pieces = front ++ piece :: rest ∧ piece.has pattern = true ∧
      (∀ more, Silent pattern (markupOf front) more) ∧
      ∀ more, pattern (piece.markup ++ more) = some piece.markup.length := by
  obtain ⟨piece, rfl, absent, here⟩ := cut?_spec found
  have inside : piece ∈ front ++ piece :: rest := List.mem_append_right _ List.mem_cons_self
  refine ⟨piece, rfl, here, ?_, ?_⟩
  · exact (readable.sublist (List.sublist_append_left _ _)).silent member absent
  · exact taken_of_has (readable.wellFormed piece inside) (readable.quiet piece inside) member here

/-- An opening tag is no closing tag. -/
theorem not_closes {name : String} (readable : Readable (piece :: pieces)) (part : name ∈ partNames)
    (opens : piece.has (openTag name) = true) : piece.has (closeTag name) = false := by
  have telling : name ∈ tellingNames := List.mem_append_right _ part
  have wellFormed := readable.wellFormed piece List.mem_cons_self
  have quiet := readable.quiet piece List.mem_cons_self
  have taken := taken_of_has wellFormed quiet (openTag_mem part) opens []
  cases closes : piece.has (closeTag name) with
  | false => rfl
  | true =>
    have other := taken_of_has wellFormed quiet (closeTag_mem part) closes []
    obtain ⟨longer, shorter⟩ := leads_apart part
    have absent := (ledBy_openTag telling).eq_none ((ledBy_closeTag telling).stands other) longer
      shorter
    rw [absent] at taken
    cases taken

/-- Nothing begins with an opening tag that no closing tag follows. -/
theorem silent_element {name : String} (readable : Readable (piece :: rest))
    (part : name ∈ partNames) (opens : piece.has (openTag name) = true)
    (unclosed : cut? (closeTag name) rest = none) :
    Silent (element name) (markupOf (piece :: rest)) [] := by
  apply silent_enclosed
  apply search_markupOf_eq_none (telling_of_mem (closeTag_mem part)) readable.wellFormed
  exact List.forall_mem_cons.mpr ⟨readable.not_closes part opens, cut?_eq_none unclosed⟩

/-- Without an opening tag nothing is found that begins with one. -/
theorem firstSome_of_uncut {α : Type} {f : List Char → Option α} {name : String}
    (readable : Readable pieces) (part : name ∈ partNames)
    (needs : ∀ text, openTag name text = none → f text = none)
    (absent : cut? (openTag name) pieces = none) : firstSome f (markupOf pieces) = none := by
  have silent := readable.silent (openTag_mem part) (cut?_eq_none absent) []
  have atEnd := (telling_of_mem (openTag_mem part)).search_eq_none (silent_nil _ [])
  exact firstSome_eq_none (silent.of_eq_none needs) (needs [] (search_eq_none_iff.mp atEnd).2)

/-- What begins with an opening tag is first looked for at the first one. -/
theorem firstSome_of_cut {α : Type} {f : List Char → Option α} {name : String}
    (readable : Readable pieces) (part : name ∈ partNames)
    (needs : ∀ text, openTag name text = none → f text = none)
    (found : cut? (openTag name) pieces = some (front, rest)) :
    ∃ opener, Readable (opener :: rest) ∧ opener.has (openTag name) = true ∧
      (∀ more, openTag name (opener.markup ++ more) = some opener.markup.length) ∧
      firstSome f (markupOf pieces) = firstSome f (markupOf (opener :: rest)) := by
  obtain ⟨opener, rfl, opens, silent, taken⟩ := readable.first (openTag_mem part) found
  refine ⟨opener, readable.sublist (List.sublist_append_right front _), opens, taken, ?_⟩
  rw [markupOf_append, firstSome_append ((silent _).of_eq_none needs)]

end Readable

def titleOf? (pieces : List Piece) : Option (List Piece) :=
  (cut? (openTag "title") pieces).bind fun opened =>
    (cut? (closeTag "title") opened.2).map fun closed => closed.1

/-- The pieces of the first body, up to its closing tag or to the end. -/
def bodyOf? (pieces : List Piece) : Option (List Piece) :=
  (cut? (openTag "body") pieces).map fun opened =>
    ((cut? (closeTag "body") opened.2).map fun closed => closed.1).getD opened.2

theorem length_behind {p q : Pattern} {ahead behind : List Piece}
    (first : cut? p pieces = some (front, rest)) (second : cut? q rest = some (ahead, behind)) :
    behind.length < pieces.length := by
  obtain ⟨_, rfl, -⟩ := cut?_spec first
  obtain ⟨_, rfl, -⟩ := cut?_spec second
  simp only [List.length_append, List.length_cons]
  omega

/-- The pieces with a blank in place of each head. -/
def withoutHead (pieces : List Piece) : List Piece :=
  match _ : cut? (openTag "head") pieces with
  | none => pieces
  | some (front, rest) =>
    match _ : cut? (closeTag "head") rest with
    | none => pieces
    | some (_, behind) => front ++ text [' '] :: withoutHead behind
  termination_by pieces.length
  decreasing_by exact length_behind (by assumption) (by assumption)

theorem title?_markupOf (readable : Readable pieces) :
    title? (markupOf pieces) = (titleOf? pieces).map markupOf := by
  have needs (text : List Char) (absent : openTag "title" text = none) :
      contents? (openTag "title") (closeTag "title") text = none :=
    contents?_eq_none (enclosed_eq_none _ absent)
  rw [title?, titleOf?]
  cases first : cut? (openTag "title") pieces with
  | none => exact readable.firstSome_of_uncut (by decide) needs first
  | some opened =>
    obtain ⟨opener, later, opens, taken, same⟩ := readable.firstSome_of_cut (by decide) needs first
    rw [same, Option.bind_some]
    cases second : cut? (closeTag "title") opened.2 with
    | none =>
      have silent := later.silent_element (by decide) opens second
      exact firstSome_eq_none (silent.of_eq_none fun _ => contents?_eq_none) rfl
    | some closed =>
      have last := later.sublist (List.sublist_cons_self _ _)
      obtain ⟨closer, whole, -, silent, closes⟩ := last.first (closeTag_mem (by decide)) second
      rw [whole, markupOf_cons, markupOf_append, markupOf_cons]
      exact firstSome_of_eq_some (contents?_eq_some (taken _) (silent _) (closes _))

theorem body?_markupOf (readable : Readable pieces) :
    body? (markupOf pieces) = (bodyOf? pieces).map markupOf := by
  have needs (text : List Char) (absent : openTag "body" text = none) :
      bodyAfterTag? text = none := by
    rw [bodyAfterTag?, absent]
    rfl
  rw [body?, bodyOf?]
  cases first : cut? (openTag "body") pieces with
  | none => exact readable.firstSome_of_uncut (by decide) needs first
  | some opened =>
    obtain ⟨opener, later, -, taken, same⟩ := readable.firstSome_of_cut (by decide) needs first
    have last := later.sublist (List.sublist_cons_self _ _)
    rw [same, markupOf_cons, Option.map_some, Option.map_some]
    apply firstSome_of_eq_some
    cases second : cut? (closeTag "body") opened.2 with
    | none =>
      have absent := search_markupOf_eq_none (telling_of_mem (closeTag_mem (by decide)))
        last.wellFormed (cut?_eq_none second)
      simp only [bodyAfterTag?, taken, Option.bind_eq_bind, Option.bind_some, List.drop_left,
        absent]
      rfl
    | some closed =>
      obtain ⟨closer, whole, -, silent, closes⟩ := last.first (closeTag_mem (by decide)) second
      have found : (closeTag "body").search (markupOf opened.2) =
          some ((markupOf closed.1).length, closer.markup.length) := by
        rw [whole, markupOf_append, markupOf_cons, search_append (silent _),
          search_of_eq_some (closes _), Option.map_some, Nat.zero_add]
      simp only [bodyAfterTag?, taken, Option.bind_eq_bind, Option.bind_some, List.drop_left, found]
      rw [whole, markupOf_append, List.take_left]
      rfl

theorem blankOut_head_markupOf (readable : Readable pieces) :
    (Markup.element "head").blankOut (markupOf pieces) = markupOf (withoutHead pieces) := by
  have needs (text : List Char) (absent : openTag "head" text = none) :
      Markup.element "head" text = none :=
    enclosed_eq_none _ absent
  fun_induction withoutHead pieces with
  | case1 pieces first =>
    have silent := readable.silent (openTag_mem (by decide)) (cut?_eq_none first) []
    exact blankOut_of_silent (silent.of_eq_none needs)
  | case2 pieces front rest first second =>
    obtain ⟨opener, rfl, opens, silent, -⟩ := readable.first (openTag_mem (by decide)) first
    have readable := readable.sublist (List.sublist_append_right front _)
    rw [markupOf_append, blankOut_append ((silent _).of_eq_none needs),
      blankOut_of_silent (readable.silent_element (by decide) opens second)]
  | case3 pieces front rest first inner behind second ih =>
    obtain ⟨opener, rfl, -, silent, taken⟩ := readable.first (openTag_mem (by decide)) first
    have readable := readable.sublist
      ((List.sublist_cons_self _ _).trans (List.sublist_append_right front _))
    obtain ⟨closer, rfl, -, quiet, closes⟩ := readable.first (closeTag_mem (by decide)) second
    have readable := readable.sublist
      ((List.sublist_cons_self _ _).trans (List.sublist_append_right inner _))
    have nonempty : opener.markup ++ (markupOf inner ++ closer.markup) ≠ [] := by
      intro empty
      have nothing := taken []
      rw [(List.append_eq_nil_iff.mp empty).1] at nothing
      cases nothing
    have closes := closes []
    rw [List.append_nil] at closes
    have whole := element_append (by decide) (enclosed_eq_length (taken _) (quiet _) closes)
      (markupOf behind)
    have written : markupOf (front ++ opener :: (inner ++ closer :: behind)) = markupOf front ++
        (opener.markup ++ (markupOf inner ++ closer.markup) ++ markupOf behind) := by
      simp only [markupOf_append, markupOf_cons, List.append_assoc]
    rw [written, blankOut_append ((silent _).of_eq_none needs), blankOut_of_whole nonempty whole,
      ih readable, markupOf_append, markupOf_cons]
    rfl

theorem titleOf?_sublist (found : titleOf? pieces = some inner) : inner.Sublist pieces := by
  obtain ⟨opened, first, found⟩ := Option.bind_eq_some_iff.mp found
  obtain ⟨closed, second, rfl⟩ := Option.map_eq_some_iff.mp found
  exact (cut?_sublist second).1.trans (cut?_sublist first).2

theorem bodyOf?_sublist (found : bodyOf? pieces = some inner) : inner.Sublist pieces := by
  obtain ⟨opened, first, rfl⟩ := Option.map_eq_some_iff.mp found
  cases second : cut? (closeTag "body") opened.2 with
  | none => exact (cut?_sublist first).2
  | some closed => exact (cut?_sublist second).1.trans (cut?_sublist first).2

theorem titleOf?_exposed (readable : Readable pieces) :
    titleOf? (pieces.map exposed) = (titleOf? pieces).map (List.map exposed) := by
  rw [titleOf?, titleOf?, cut?_exposed readable (openTag_mem (by decide))]
  cases first : cut? (openTag "title") pieces with
  | none => rfl
  | some opened =>
    rw [Option.map_some, Option.bind_some, Option.bind_some,
      cut?_exposed (readable.sublist (cut?_sublist first).2) (closeTag_mem (by decide))]
    cases cut? (closeTag "title") opened.2 <;> rfl

theorem bodyOf?_exposed (readable : Readable pieces) :
    bodyOf? (pieces.map exposed) = (bodyOf? pieces).map (List.map exposed) := by
  rw [bodyOf?, bodyOf?, cut?_exposed readable (openTag_mem (by decide))]
  cases first : cut? (openTag "body") pieces with
  | none => rfl
  | some opened =>
    rw [Option.map_some, Option.map_some, Option.map_some,
      cut?_exposed (readable.sublist (cut?_sublist first).2) (closeTag_mem (by decide))]
    cases cut? (closeTag "body") opened.2 <;> rfl

theorem withoutHead_eq (pieces : List Piece) : withoutHead pieces =
    match cut? (openTag "head") pieces with
    | none => pieces
    | some opened => match cut? (closeTag "head") opened.2 with
      | none => pieces
      | some closed => opened.1 ++ text [' '] :: withoutHead closed.2 := by
  fun_induction withoutHead pieces with
  | case1 pieces first => rw [first]
  | case2 pieces front rest first second => simp only [first, second]
  | case3 pieces front rest first inner behind second ih => simp only [first, second]

theorem withoutHead_exposed (readable : Readable pieces) :
    withoutHead (pieces.map exposed) = (withoutHead pieces).map exposed := by
  have opens : openTag "head" ∈ partTags := openTag_mem (by decide)
  have closes : closeTag "head" ∈ partTags := closeTag_mem (by decide)
  fun_induction withoutHead pieces with
  | case1 pieces first => rw [withoutHead_eq, cut?_exposed readable opens, first]; rfl
  | case2 pieces front rest first second =>
    have later := readable.sublist (cut?_sublist first).2
    rw [withoutHead_eq, cut?_exposed readable opens, first, Option.map_some]
    simp only [cut?_exposed later closes, second]
    rfl
  | case3 pieces front rest first inner behind second ih =>
    have later := readable.sublist (cut?_sublist first).2
    rw [withoutHead_eq, cut?_exposed readable opens, first, Option.map_some]
    simp only [cut?_exposed later closes, second, Option.map_some, List.map_append, List.map_cons,
      ih (later.sublist (cut?_sublist second).2)]
    rfl

/-- Blanks come in place of heads, and nothing else does. -/
theorem mem_withoutHead (member : piece ∈ withoutHead pieces) :
    piece ∈ pieces ∨ piece = text [' '] := by
  fun_induction withoutHead pieces with
  | case1 pieces first => exact .inl member
  | case2 pieces front rest first second => exact .inl member
  | case3 pieces front rest first inner behind second ih =>
    rw [List.mem_append, List.mem_cons] at member
    rcases member with member | blank | member
    · exact .inl ((cut?_sublist first).1.mem member)
    · exact .inr blank
    · have inside := (cut?_sublist second).2.trans (cut?_sublist first).2
      exact (ih member).imp_left inside.mem

/-- Where a head was, pieces do not reach over each other, since a blank ends nothing. -/
theorem laid_withoutHead (laid : Laid pieces) : Laid (withoutHead pieces) := by
  constructor
  · intro piece member
    rcases mem_withoutHead member with inside | rfl
    · exact laid.wellFormed piece inside
    · exact inert_blank
  · fun_induction withoutHead pieces with
    | case1 pieces first => exact laid.apart
    | case2 pieces front rest first second => exact laid.apart
    | case3 pieces front rest first inner behind second ih =>
      obtain ⟨opener, rfl, -⟩ := cut?_spec first
      obtain ⟨before, -, across⟩ := List.pairwise_append.mp laid.apart
      have inside := (cut?_sublist second).2
      refine List.pairwise_append.mpr ⟨before, List.pairwise_cons.mpr ⟨fun _ _ => id, ?_⟩, ?_⟩
      · exact ih (laid.sublist (inside.trans (cut?_sublist first).2))
      · intro earlier member later among
        have blank : ¬ earlier.Overreaches (text [' ']) := not_overreaches_text inert_blank
        rcases List.mem_cons.mp among with rfl | among
        · exact blank
        · rcases mem_withoutHead among with among | rfl
          · exact across earlier member later (List.mem_cons_of_mem _ (inside.mem among))
          · exact blank

theorem Readable.exposed (readable : Readable pieces) : Readable (pieces.map exposed) where
  toLaid := readable.toLaid.exposed
  quiet := by
    intro piece member
    obtain ⟨original, -, rfl⟩ := List.mem_map.mp member
    cases original <;> trivial

theorem visibleText_exposed (laid : Laid pieces) :
    visibleText (markupOf (pieces.map exposed)) = visibleText (markupOf pieces) := by
  have again : (pieces.map exposed).map exposed = pieces.map exposed := by
    rw [List.map_map]
    exact List.map_congr_left fun piece _ => exposed_exposed piece
  rw [visibleText, visibleText, blankOut_markupOf laid, blankOut_markupOf laid.exposed, again]

/-- What comments, scripts and styles hold is neither read nor does it decide what is read, so far
as there is no tag of a title, body or head in it. -/
theorem page_without_hidden (readable : Readable pieces) :
    Page.ofMarkup (.ofList (Markup.hidden.blankOut (markupOf pieces))) =
      Page.ofMarkup (.ofList (markupOf pieces)) := by
  have read (inner : List Piece) (inside : inner.Sublist pieces) :
      visibleText (markupOf (inner.map exposed)) = visibleText (markupOf inner) :=
    visibleText_exposed (readable.toLaid.sublist inside)
  have title : (title? (markupOf (pieces.map exposed))).map visibleText =
      (title? (markupOf pieces)).map visibleText := by
    rw [title?_markupOf readable, title?_markupOf readable.exposed, titleOf?_exposed readable]
    cases found : titleOf? pieces with
    | none => rfl
    | some inner => exact congrArg Option.some (read inner (titleOf?_sublist found))
  have body : visibleText ((body? (markupOf (pieces.map exposed))).getD
        ((Markup.element "head").blankOut (markupOf (pieces.map exposed)))) =
      visibleText ((body? (markupOf pieces)).getD
        ((Markup.element "head").blankOut (markupOf pieces))) := by
    rw [body?_markupOf readable, body?_markupOf readable.exposed, bodyOf?_exposed readable,
      blankOut_head_markupOf readable, blankOut_head_markupOf readable.exposed,
      withoutHead_exposed readable]
    cases found : bodyOf? pieces with
    | none => exact visibleText_exposed (laid_withoutHead readable.toLaid)
    | some inner => exact read inner (bodyOf?_sublist found)
  rw [blankOut_markupOf readable.toLaid, Page.ofMarkup, Page.ofMarkup, String.toList_ofList,
    String.toList_ofList, title, body]

instance (piece : Piece) : Decidable piece.Quiet :=
  match piece with
  | hidden region => inferInstanceAs (Decidable (∀ pattern ∈ partTags,
      (hidden region).has pattern = false))
  | .text _ | .tag _ => isTrue trivial

/-- A page with a comment in its title, a style in its head and a script in its body. -/
def coastPage : List Piece := [
  tag "head".toList, tag "title".toList, text "Crabs".toList, hidden "<!--<b>2 < 3</b>-->".toList,
  tag "/title".toList, hidden "<style>p\x7b\x7d</style>".toList, tag "/head".toList,
  tag "body id=1".toList, text "<p>walk".toList, hidden "<script>\"</p>\"</script>".toList,
  text "sideways".toList, tag "/BODY ".toList]

theorem coastPage_read : Readable coastPage ∧
    Page.ofMarkup (.ofList (markupOf coastPage)) = ⟨"Crabs", "walk sideways"⟩ ∧
    Page.ofMarkup (.ofList (Markup.hidden.blankOut (markupOf coastPage))) =
      ⟨"Crabs", "walk sideways"⟩ := by
  have readable : Readable coastPage := ⟨⟨by decide, by decide⟩, by decide⟩
  have read : Page.ofMarkup (.ofList (markupOf coastPage)) = ⟨"Crabs", "walk sideways"⟩ := by
    decide +kernel
  exact ⟨readable, read, (page_without_hidden readable).trans read⟩

/-- The title is looked for in scripts too. -/
theorem title_found_in_script :
    Page.ofMarkup "<script>\"<title>Old</title>\"</script><title>New</title><body>text</body>" =
      ⟨"Old", "text"⟩ ∧
    Page.ofMarkup (.ofList (Markup.hidden.blankOut
      "<script>\"<title>Old</title>\"</script><title>New</title><body>text</body>".toList)) =
      ⟨"New", "text"⟩ := by
  decide

end Relevance.Piece
