import Relevance.Proofs.Page.Extraction
import Relevance.Proofs.Page.Stripping

set_option autoImplicit false

namespace Relevance

namespace Entity

open Pattern

variable {c : Char} {digits written rest text : List Char}

/-- A character is written as it stands, by its name, or by its number. -/
inductive Writes (c : Char) : List Char → Prop
  | plain (noBracket : c ≠ '<') (noAmpersand : c ≠ '&') : Writes c [c]
  | named {name : String} (known : (name, c) ∈ names) : Writes c ('&' :: (name.toList ++ [';']))
  | decimal {digits : List Char} (nonempty : digits ≠ []) (short : digits.length ≤ 7)
      (all : digits.all Char.isDigit = true) (value : digitsValue digits = c.toNat) :
      Writes c ('&' :: '#' :: (digits ++ [';']))
  | hexadecimal {mark : Char} {digits : List Char} (marked : mark = 'x' ∨ mark = 'X')
      (nonempty : digits ≠ []) (short : digits.length ≤ 6) (all : digits.all isHexDigit = true)
      (value : hexValue digits = c.toNat) : Writes c ('&' :: '#' :: mark :: (digits ++ [';']))

theorem names_spec : ∀ entry ∈ names, entry.1.toList ≠ [] ∧
    entry.1.toList.all Char.isAlpha = true ∧ names.lookup entry.1 = some entry.2 := by
  simp [names, List.lookup]

theorem ofNumber?_toNat (c : Char) : ofNumber? c.toNat = some c := by
  have valid : c.toNat.isValidChar := c.valid
  rw [ofNumber?, dif_pos valid]
  rfl

theorem digits?_append {isDigit : Char → Bool} {most : Nat} (nonempty : digits ≠ [])
    (short : digits.length ≤ most) (all : digits.all isDigit = true)
    (stops : isDigit ';' = false) (rest : List Char) :
    Reference.digits? isDigit most (digits ++ ';' :: rest) = some digits := by
  have taken := takeWhile_append_stop (List.all_eq_true.mp all) stops rest
  simp [Reference.digits?, taken, nonempty, short]

theorem scan?_decimal (nonempty : digits ≠ []) (short : digits.length ≤ 7)
    (all : digits.all Char.isDigit = true) (rest : List Char) :
    Reference.scan? ('#' :: (digits ++ ';' :: rest)) = some (.decimal digits) := by
  have found := digits?_append nonempty short all (by decide) rest
  obtain ⟨d, more, rfl⟩ := List.exists_cons_of_ne_nil nonempty
  have first : d.isDigit = true := List.all_eq_true.mp all d List.mem_cons_self
  rw [List.cons_append] at found ⊢
  rw [Reference.scan?, found]
  · rfl
  · rintro _ ⟨⟩
    cases first
  · rintro _ ⟨⟩
    cases first

theorem scan?_hexadecimal {mark : Char} (marked : mark = 'x' ∨ mark = 'X') (nonempty : digits ≠ [])
    (short : digits.length ≤ 6) (all : digits.all isHexDigit = true) (rest : List Char) :
    Reference.scan? ('#' :: mark :: (digits ++ ';' :: rest)) = some (.hexadecimal digits) := by
  have found := digits?_append nonempty short all (by decide) rest
  rcases marked with rfl | rfl <;> rw [Reference.scan?, found] <;> rfl

theorem scan?_name {letters : List Char} (nonempty : letters ≠ [])
    (all : letters.all Char.isAlpha = true) (rest : List Char) :
    Reference.scan? (letters ++ ';' :: rest) = some (.name letters) := by
  have stops : Char.isAlpha ';' = false := by decide
  have taken := takeWhile_append_stop (List.all_eq_true.mp all) stops rest
  have other : ∀ more, letters ++ ';' :: rest ≠ '#' :: more := by
    intro more same
    obtain ⟨letter, others, rfl⟩ := List.exists_cons_of_ne_nil nonempty
    cases same
    cases List.all_eq_true.mp all '#' List.mem_cons_self
  -- A letter is no number sign, so the last case of the scanner applies.
  unfold Reference.scan?
  split
  · exact absurd ‹_› (other _)
  · exact absurd ‹_› (other _)
  · exact absurd ‹_› (other _)
  · simp [taken, nonempty]

/-- A reference is replaced as a whole. -/
theorem decode_of_scan {reference : Reference} (inner : List Char)
    (scanned : Reference.scan? (inner ++ ';' :: rest) = some reference)
    (stands : reference.char? = some c) (whole : reference.length = inner.length) :
    decode ('&' :: (inner ++ [';']) ++ rest) = c :: decode rest := by
  change replaceFrom atStart? 0 ('&' :: (inner ++ [';']) ++ rest) = [c] ++ decode rest
  apply replaceFrom_of_whole (List.cons_ne_nil _ _)
  rw [List.cons_append, List.append_assoc, List.singleton_append, atStart?, scanned]
  simp only [stands, whole, List.length_cons, List.length_append, List.length_nil]

/-- However a character is written, it is read as one, and nothing behind it is read with it. -/
theorem Writes.decode_append (writes : Writes c written) (rest : List Char) :
    decode (written ++ rest) = c :: decode rest := by
  cases writes with
  | plain noBracket noAmpersand =>
    have silent : Silent atStart? [c] rest := by
      refine silent_cons_iff.mpr ⟨?_, silent_nil _ _⟩
      rw [atStart?]
      rintro text ⟨⟩
      exact noAmpersand rfl
    exact replaceFrom_append silent
  | @named name known =>
    obtain ⟨nonempty, letters, found⟩ := names_spec _ known
    apply decode_of_scan name.toList (scan?_name nonempty letters rest) _ rfl
    rw [Reference.char?, String.ofList_toList, found]
  | @decimal digits nonempty short all value =>
    apply decode_of_scan ('#' :: digits) (scan?_decimal nonempty short all rest) _ rfl
    rw [Reference.char?, value, ofNumber?_toNat]
  | @hexadecimal mark digits marked nonempty short all value =>
    apply decode_of_scan ('#' :: mark :: digits)
      (scan?_hexadecimal marked nonempty short all rest) _ rfl
    rw [Reference.char?, value, ofNumber?_toNat]

theorem Writes.bracket_not_mem (writes : Writes c written) : '<' ∉ written := by
  have absent {holds : Char → Bool} {inner : List Char} (all : inner.all holds = true)
      (other : holds '<' = false) : '<' ∉ inner ++ [';'] := by
    apply List.not_mem_append _ (by decide)
    intro member
    rw [List.all_eq_true.mp all _ member] at other
    cases other
  cases writes with
  | plain noBracket noAmpersand => exact fun member => noBracket (List.mem_singleton.mp member).symm
  | named known =>
    obtain ⟨-, letters, -⟩ := names_spec _ known
    exact List.not_mem_cons_of_ne_of_not_mem (by decide) (absent letters (by decide))
  | decimal nonempty short all value =>
    exact List.not_mem_cons_of_ne_of_not_mem (by decide)
      (List.not_mem_cons_of_ne_of_not_mem (by decide) (absent all (by decide)))
  | @hexadecimal mark digits marked nonempty short all value =>
    have other : '<' ≠ mark := by rcases marked with rfl | rfl <;> decide
    exact List.not_mem_cons_of_ne_of_not_mem (by decide)
      (List.not_mem_cons_of_ne_of_not_mem (by decide)
        (List.not_mem_cons_of_ne_of_not_mem other (absent all (by decide))))

/-- A text is read back character by character. -/
theorem decode_written {pieces : List (List Char)} (writes : List.Forall₂ Writes text pieces) :
    decode pieces.flatten = text := by
  induction writes with
  | nil => rfl
  | cons first others ih => rw [List.flatten_cons, first.decode_append, ih]

theorem bracket_not_mem_written {pieces : List (List Char)}
    (writes : List.Forall₂ Writes text pieces) : '<' ∉ pieces.flatten := by
  induction writes with
  | nil => exact List.not_mem_nil
  | cons first others ih => exact List.not_mem_append first.bracket_not_mem ih

end Entity

namespace Piece

open Markup Entity

variable {chars title body : List Char} {written : List (List Char)}

/-- What is read of a written text is its decoding on one line. -/
theorem visibleText_written (writes : List.Forall₂ Writes chars written) :
    visibleText written.flatten = collapseBlanks chars := by
  have plain : '<' ∉ written.flatten := bracket_not_mem_written writes
  have shown : Markup.tag.blankOut written.flatten = written.flatten := by
    have kept := blankOut_tag_of_not_mem plain []
    rwa [List.append_nil, show Markup.tag.blankOut [] = [] from rfl, List.append_nil] at kept
  rw [visibleText, Pattern.blankOut_of_silent ((inert_of_not_mem plain).silent_hidden []), shown,
    decode_written writes]

/-- The opening and closing tags of a title and of a body, with texts between them. -/
def plainPage (title body : List Char) : List Piece := [
  tag "title".toList, text title, tag "/title".toList,
  tag "body".toList, text body, tag "/body".toList]

theorem readable_plainPage (inertTitle : Inert title) (inertBody : Inert body) :
    Readable (plainPage title body) := by
  have harmless {inner : List Char}
      (opens : ∀ name ∈ silencedNames, (tag inner).has (openTag name) = false) (later : Piece) :
      ¬ (tag inner).Overreaches later := by
    rintro ⟨name, silenced, opened, -⟩
    rw [opens name silenced] at opened
    cases opened
  have nothing : ∀ piece ∈ plainPage title body, ∀ later, ¬ piece.Overreaches later := by
    simp only [plainPage, List.forall_mem_cons]
    exact ⟨harmless (by decide), fun _ => id, harmless (by decide), harmless (by decide),
      fun _ => id, harmless (by decide), nofun⟩
  constructor
  · constructor
    · simp only [plainPage, List.forall_mem_cons]
      exact ⟨by decide, inertTitle, by decide, by decide, inertBody, by decide, nofun⟩
    · exact List.pairwise_of_forall_mem_list fun piece member later _ => nothing piece member later
  · simp only [plainPage, List.forall_mem_cons]
    exact ⟨trivial, trivial, trivial, trivial, trivial, trivial, nofun⟩

theorem titleOf?_plainPage (inert : Inert title) (body : List Char) :
    titleOf? (plainPage title body) = some [text title] := by
  have opens : (tag "title".toList).has (openTag "title") = true := by decide
  have silent : (text title).has (closeTag "title") = false :=
    has_text inert (telling_of_mem (closeTag_mem (by decide)))
  have closes : (tag "/title".toList).has (closeTag "title") = true := by decide
  have opened : cut? (openTag "title") (plainPage title body) =
      some ([], (plainPage title body).drop 1) :=
    cut?_append (List.forall_mem_nil _) opens
  have closed : cut? (closeTag "title") ((plainPage title body).drop 1) =
      some ([text title], (plainPage title body).drop 3) :=
    cut?_append (List.forall_mem_singleton.mpr silent) closes
  rw [titleOf?, opened, Option.bind_some, closed, Option.map_some]

theorem bodyOf?_plainPage (inertTitle : Inert title) (inertBody : Inert body) :
    bodyOf? (plainPage title body) = some [text body] := by
  have opens : (tag "body".toList).has (openTag "body") = true := by decide
  have before : ∀ piece ∈ (plainPage title body).take 3, piece.has (openTag "body") = false := by
    have silent : (text title).has (openTag "body") = false :=
      has_text inertTitle (telling_of_mem (openTag_mem (by decide)))
    simp only [plainPage, List.take_succ_cons, List.take_zero, List.forall_mem_cons]
    exact ⟨by decide, silent, by decide, nofun⟩
  have silent : (text body).has (closeTag "body") = false :=
    has_text inertBody (telling_of_mem (closeTag_mem (by decide)))
  have closes : (tag "/body".toList).has (closeTag "body") = true := by decide
  have opened : cut? (openTag "body") (plainPage title body) =
      some ((plainPage title body).take 3, (plainPage title body).drop 4) :=
    cut?_append before opens
  have closed : cut? (closeTag "body") ((plainPage title body).drop 4) = some ([text body], []) :=
    cut?_append (List.forall_mem_singleton.mpr silent) closes
  rw [bodyOf?, opened, Option.map_some, closed, Option.map_some, Option.getD_some]

/-- A page of two written texts is read as what they stand for, each on one line. -/
theorem ofMarkup_plainPage {title body : List Char} {titleWritten bodyWritten : List (List Char)}
    (writesTitle : List.Forall₂ Writes title titleWritten)
    (writesBody : List.Forall₂ Writes body bodyWritten) :
    Page.ofMarkup (.ofList (markupOf (plainPage titleWritten.flatten bodyWritten.flatten))) =
      ⟨.ofList (collapseBlanks title), .ofList (collapseBlanks body)⟩ := by
  have inertTitle := inert_of_not_mem (bracket_not_mem_written writesTitle)
  have inertBody := inert_of_not_mem (bracket_not_mem_written writesBody)
  have readable := readable_plainPage inertTitle inertBody
  have single (chars : List Char) : markupOf [text chars] = chars := List.append_nil chars
  rw [Page.ofMarkup, String.toList_ofList, title?_markupOf readable, body?_markupOf readable,
    titleOf?_plainPage inertTitle, bodyOf?_plainPage inertTitle inertBody, Option.map_some,
    Option.map_some, Option.map_some, Option.getD_some, Option.getD_some, single, single,
    visibleText_written writesTitle, visibleText_written writesBody]

end Piece

open Markup Entity Piece

theorem normalised_visibleText (markup : List Char) : Normalised (visibleText markup) :=
  normalised_collapseBlanks _

theorem normalised_ofMarkup (markup : String) : Normalised (Page.ofMarkup markup).title.toList ∧
    Normalised (Page.ofMarkup markup).body.toList := by
  simp only [Page.ofMarkup, String.toList_ofList]
  refine ⟨?_, normalised_visibleText _⟩
  cases title? markup.toList with
  | none => exact normalised_of_solid (List.forall_mem_nil _)
  | some inner => exact normalised_visibleText inner

/-- The title and body of every page are normalised, and normalised texts are read back from a page
however their characters are written. -/
theorem page_of_written :
    (∀ markup : String, Normalised (Page.ofMarkup markup).title.toList ∧
      Normalised (Page.ofMarkup markup).body.toList) ∧
    ∀ title body : String, Normalised title.toList → Normalised body.toList →
      ∀ titleWritten bodyWritten : List (List Char),
        List.Forall₂ Writes title.toList titleWritten →
        List.Forall₂ Writes body.toList bodyWritten →
        Page.ofMarkup ("<title>" ++ String.ofList titleWritten.flatten ++ "</title><body>" ++
          String.ofList bodyWritten.flatten ++ "</body>") = ⟨title, body⟩ := by
  refine ⟨normalised_ofMarkup, ?_⟩
  intro title body normalTitle normalBody titleWritten bodyWritten writesTitle writesBody
  have whole : "<title>" ++ String.ofList titleWritten.flatten ++ "</title><body>" ++
      String.ofList bodyWritten.flatten ++ "</body>" =
      String.ofList (markupOf (plainPage titleWritten.flatten bodyWritten.flatten)) := by
    apply String.toList_inj.mp
    simp [plainPage, markupOf, markup]
  rw [whole, ofMarkup_plainPage writesTitle writesBody,
    (collapseBlanks_eq_self_iff _).mpr normalTitle, (collapseBlanks_eq_self_iff _).mpr normalBody,
    String.ofList_toList, String.ofList_toList]

/-- A title that looks like a tag and a body that looks like a reference, written in all ways. -/
theorem page_of_lookalikes :
    Normalised "<b> &".toList ∧ Normalised "&lt;".toList ∧
    List.Forall₂ Writes "<b> &".toList
      ["&lt;".toList, ['b'], ['>'], "&#032;".toList, "&#x26;".toList] ∧
    List.Forall₂ Writes "&lt;".toList ["&amp;".toList, ['l'], "&#X74;".toList, [';']] ∧
    Page.ofMarkup "<title>&lt;b>&#032;&#x26;</title><body>&amp;l&#X74;;</body>" =
      ⟨"<b> &", "&lt;"⟩ := by
  have normalTitle : Normalised "<b> &".toList := by decide +kernel
  have normalBody : Normalised "&lt;".toList := by decide +kernel
  have writesTitle : List.Forall₂ Writes "<b> &".toList
      ["&lt;".toList, ['b'], ['>'], "&#032;".toList, "&#x26;".toList] := by
    have bracket : Writes '<' ('&' :: ("lt".toList ++ [';'])) := .named (by decide)
    have blank : Writes ' ' ('&' :: '#' :: (['0', '3', '2'] ++ [';'])) :=
      .decimal (by decide) (by decide) rfl rfl
    have ampersand : Writes '&' ('&' :: '#' :: 'x' :: (['2', '6'] ++ [';'])) :=
      .hexadecimal (.inl rfl) (by decide) (by decide) rfl rfl
    exact .cons bracket <| .cons (.plain (by decide) (by decide)) <|
      .cons (.plain (by decide) (by decide)) <| .cons blank <| .cons ampersand .nil
  have writesBody : List.Forall₂ Writes "&lt;".toList
      ["&amp;".toList, ['l'], "&#X74;".toList, [';']] := by
    have ampersand : Writes '&' ('&' :: ("amp".toList ++ [';'])) := .named (by decide)
    have letter : Writes 't' ('&' :: '#' :: 'X' :: (['7', '4'] ++ [';'])) :=
      .hexadecimal (.inr rfl) (by decide) (by decide) rfl rfl
    exact .cons ampersand <| .cons (.plain (by decide) (by decide)) <| .cons letter <|
      .cons (.plain (by decide) (by decide)) .nil
  refine ⟨normalTitle, normalBody, writesTitle, writesBody, ?_⟩
  have same : "<title>&lt;b>&#032;&#x26;</title><body>&amp;l&#X74;;</body>" = "<title>" ++
      String.ofList ["&lt;".toList, ['b'], ['>'], "&#032;".toList, "&#x26;".toList].flatten ++
      "</title><body>" ++
      String.ofList ["&amp;".toList, ['l'], "&#X74;".toList, [';']].flatten ++ "</body>" := by
    decide
  rw [same]
  exact page_of_written.2 _ _ normalTitle normalBody _ _ writesTitle writesBody

end Relevance
