import Relevance.Proofs.Page.Tags

set_option autoImplicit false

namespace Relevance.Pattern

variable {α : Type} {f : List Char → Option α} {pattern : Pattern} {front rest text : List Char}

/-- Nothing is found at any place of a stretch of text that another text follows. -/
def Silent (f : List Char → Option α) (front rest : List Char) : Prop :=
  ∀ suffix, suffix ≠ [] → suffix <:+ front → f (suffix ++ rest) = none

theorem silent_nil (f : List Char → Option α) (rest : List Char) : Silent f [] rest := by
  intro suffix nonempty inside
  exact absurd (List.suffix_nil.mp inside) nonempty

theorem silent_cons_iff {c : Char} :
    Silent f (c :: front) rest ↔ f (c :: (front ++ rest)) = none ∧ Silent f front rest := by
  constructor
  · intro silent
    refine ⟨silent _ (List.cons_ne_nil c front) (List.suffix_refl _), ?_⟩
    intro suffix nonempty inside
    exact silent suffix nonempty (inside.trans (List.suffix_cons c front))
  · rintro ⟨first, later⟩ suffix nonempty inside
    rcases List.suffix_cons_iff.mp inside with rfl | inside
    · exact first
    · exact later suffix nonempty inside

theorem silent_append {back : List Char} (first : Silent f front (back ++ rest))
    (later : Silent f back rest) : Silent f (front ++ back) rest := by
  induction front with
  | nil => exact later
  | cons c front ih =>
    obtain ⟨here, further⟩ := silent_cons_iff.mp first
    refine silent_cons_iff.mpr ⟨?_, ih further⟩
    change f (c :: (front ++ back ++ rest)) = none
    rw [List.append_assoc]
    exact here

theorem Silent.of_eq_none {β : Type} {g : List Char → Option β} (silent : Silent f front rest)
    (needs : ∀ text, f text = none → g text = none) : Silent g front rest :=
  fun suffix nonempty inside => needs _ (silent suffix nonempty inside)

theorem firstSome_append (silent : Silent f front rest) :
    firstSome f (front ++ rest) = firstSome f rest := by
  induction front with
  | nil => rfl
  | cons c front ih =>
    obtain ⟨first, later⟩ := silent_cons_iff.mp silent
    rw [List.cons_append, firstSome, first, Option.none_or, ih later]

theorem firstSome_eq_none (silent : Silent f text []) (atEnd : f [] = none) :
    firstSome f text = none := by
  rw [← List.append_nil text, firstSome_append silent, firstSome, atEnd]

theorem firstSome_of_eq_some {found : α} (here : f text = some found) :
    firstSome f text = some found := by
  cases text with
  | nil => exact here
  | cons c text => rw [firstSome, here, Option.some_or]

theorem search_of_eq_some {length : Nat} (here : pattern text = some length) :
    pattern.search text = some (0, length) := by
  cases text with
  | nil => rw [search, here]; rfl
  | cons c text => rw [search, here]

theorem search_append (silent : Silent pattern front rest) : pattern.search (front ++ rest) =
    (pattern.search rest).map fun found => (found.1 + front.length, found.2) := by
  induction front with
  | nil =>
    rw [List.nil_append]
    exact (congrFun Option.map_id _).symm
  | cons c front ih =>
    obtain ⟨first, later⟩ := silent_cons_iff.mp silent
    rw [List.cons_append, search, first, ih later, Option.map_map]
    rfl

theorem search_eq_none_iff :
    pattern.search text = none ↔ Silent pattern text [] ∧ pattern [] = none := by
  induction text with
  | nil => simp [search, silent_nil]
  | cons c text ih =>
    rw [silent_cons_iff, List.append_nil, search, and_assoc, ← ih]
    cases pattern (c :: text) with
    | none => simp
    | some length => simp

theorem search_eq_none_of_suffix {part : List Char} (absent : pattern.search text = none)
    (inside : part <:+ text) : pattern.search part = none := by
  obtain ⟨silent, atEnd⟩ := search_eq_none_iff.mp absent
  refine search_eq_none_iff.mpr ⟨?_, atEnd⟩
  intro suffix nonempty within
  exact silent suffix nonempty (within.trans inside)

theorem search_spec {start length : Nat} (found : pattern.search text = some (start, length)) :
    start ≤ text.length ∧ pattern (text.drop start) = some length := by
  induction text generalizing start with
  | nil =>
    obtain ⟨own, here, same⟩ := Option.map_eq_some_iff.mp found
    cases same
    exact ⟨Nat.zero_le _, here⟩
  | cons c text ih =>
    rw [search] at found
    split at found
    · rename_i own here
      cases found
      exact ⟨Nat.zero_le _, here⟩
    · obtain ⟨⟨before, own⟩, later, same⟩ := Option.map_eq_some_iff.mp found
      cases same
      obtain ⟨inside, here⟩ := ih later
      exact ⟨Nat.succ_le_succ inside, here⟩

theorem replaceFrom_skip (find : List Char → Option (List Char × Nat)) (skip : Nat)
    (text : List Char) : replaceFrom find skip text = replaceFrom find 0 (text.drop skip) := by
  induction skip generalizing text with
  | zero => rfl
  | succ skip ih =>
    cases text with
    | nil => rfl
    | cons c text => rw [replaceFrom, ih, List.drop_succ_cons]

theorem replaceFrom_append {find : List Char → Option (List Char × Nat)}
    (silent : Silent find front rest) :
    replaceFrom find 0 (front ++ rest) = front ++ replaceFrom find 0 rest := by
  induction front with
  | nil => rfl
  | cons c front ih =>
    obtain ⟨first, later⟩ := silent_cons_iff.mp silent
    rw [List.cons_append, replaceFrom, first, ih later]
    rfl

theorem replaceFrom_of_whole {find : List Char → Option (List Char × Nat)}
    {replacement : List Char} (nonempty : front ≠ [])
    (whole : find (front ++ rest) = some (replacement, front.length)) :
    replaceFrom find 0 (front ++ rest) = replacement ++ replaceFrom find 0 rest := by
  cases front with
  | nil => exact absurd rfl nonempty
  | cons c front =>
    rw [List.cons_append] at whole ⊢
    rw [replaceFrom, whole, List.length_cons]
    change replacement ++ replaceFrom _ front.length (front ++ rest) = _
    rw [replaceFrom_skip, List.drop_left]

theorem blankOut_append (silent : Silent pattern front rest) :
    pattern.blankOut (front ++ rest) = front ++ pattern.blankOut rest := by
  apply replaceFrom_append
  intro suffix nonempty inside
  exact Option.map_eq_none_iff.mpr (silent suffix nonempty inside)

theorem blankOut_of_silent (silent : Silent pattern text []) : pattern.blankOut text = text := by
  have kept := blankOut_append silent
  rw [List.append_nil] at kept
  exact kept.trans (List.append_nil text)

theorem blankOut_of_whole (nonempty : front ≠ [])
    (whole : pattern (front ++ rest) = some front.length) :
    pattern.blankOut (front ++ rest) = ' ' :: pattern.blankOut rest := by
  change replaceFrom _ 0 (front ++ rest) = [' '] ++ replaceFrom _ 0 rest
  apply replaceFrom_of_whole nonempty
  rw [whole, Option.map_some]

theorem enclosed_eq_some_iff {opening closing : Pattern} {length : Nat} :
    enclosed opening closing text = some length ↔ ∃ start between finish,
      opening text = some start ∧ closing.search (text.drop start) = some (between, finish) ∧
      length = start + between + finish := by
  constructor
  · intro taken
    obtain ⟨start, opened, taken⟩ := Option.bind_eq_some_iff.mp taken
    obtain ⟨⟨between, finish⟩, closed, whole⟩ := Option.bind_eq_some_iff.mp taken
    exact ⟨start, between, finish, opened, closed, (Option.some.inj whole).symm⟩
  · rintro ⟨start, between, finish, opened, closed, rfl⟩
    apply Option.bind_eq_some_iff.mpr
    exact ⟨start, opened, Option.bind_eq_some_iff.mpr ⟨(between, finish), closed, rfl⟩⟩

theorem enclosed_eq_some {opening closing : Pattern} {first content : List Char} {length : Nat}
    (opened : opening (first ++ (content ++ rest)) = some first.length)
    (silent : Silent closing content rest) (closed : closing rest = some length) :
    enclosed opening closing (first ++ (content ++ rest)) =
      some (first.length + content.length + length) := by
  apply enclosed_eq_some_iff.mpr
  refine ⟨first.length, content.length, length, opened, ?_, rfl⟩
  rw [List.drop_left, search_append silent, search_of_eq_some closed, Option.map_some, Nat.zero_add]

theorem enclosed_eq_length {opening closing : Pattern} {first content last : List Char}
    (opened : opening (first ++ (content ++ last)) = some first.length)
    (silent : Silent closing content last) (closed : closing last = some last.length) :
    enclosed opening closing (first ++ (content ++ last)) =
      some (first ++ (content ++ last)).length := by
  rw [enclosed_eq_some opened silent closed, List.length_append, List.length_append, Nat.add_assoc]

theorem contents?_eq_some {opening closing : Pattern} {first content : List Char} {length : Nat}
    (opened : opening (first ++ (content ++ rest)) = some first.length)
    (silent : Silent closing content rest) (closed : closing rest = some length) :
    contents? opening closing (first ++ (content ++ rest)) = some content := by
  have found : closing.search (content ++ rest) = some (content.length, length) := by
    rw [search_append silent, search_of_eq_some closed, Option.map_some, Nat.zero_add]
  rw [contents?, opened]
  change Option.bind (closing.search (List.drop _ _)) _ = _
  rw [List.drop_left, found]
  exact congrArg Option.some List.take_left

theorem enclosed_eq_none {opening : Pattern} (closing : Pattern) (absent : opening text = none) :
    enclosed opening closing text = none := by
  rw [enclosed, absent]
  rfl

theorem contents?_eq_none {opening closing : Pattern}
    (absent : enclosed opening closing text = none) : contents? opening closing text = none := by
  cases taken : contents? opening closing text with
  | none => rfl
  | some content =>
    obtain ⟨start, opened, taken⟩ := Option.bind_eq_some_iff.mp taken
    obtain ⟨⟨between, finish⟩, closed, -⟩ := Option.bind_eq_some_iff.mp taken
    have found := enclosed_eq_some_iff.mpr ⟨start, between, finish, opened, closed, rfl⟩
    rw [absent] at found
    cases found

/-- Nothing is enclosed where the closing pattern is not found. -/
theorem silent_enclosed {opening closing : Pattern} (absent : closing.search text = none) :
    Silent (enclosed opening closing) text [] := by
  intro suffix nonempty inside
  rw [List.append_nil]
  cases taken : enclosed opening closing suffix with
  | none => rfl
  | some length =>
    obtain ⟨start, between, finish, -, closed, -⟩ := enclosed_eq_some_iff.mp taken
    rw [search_eq_none_of_suffix absent ((List.drop_suffix start suffix).trans inside)] at closed
    cases closed

/-- What is enclosed as a whole ends with a whole match of the closing pattern. -/
theorem exists_suffix_of_enclosed {opening closing : Pattern}
    (whole : enclosed opening closing text = some text.length) :
    ∃ last, last <:+ text ∧ closing last = some last.length := by
  obtain ⟨start, between, finish, -, closed, whole⟩ := enclosed_eq_some_iff.mp whole
  obtain ⟨-, here⟩ := search_spec closed
  rw [List.drop_drop] at here
  refine ⟨text.drop (start + between), List.drop_suffix _ _, ?_⟩
  rw [here, List.length_drop, whole]
  congr 1
  omega

/-- A pattern that is matched only where the given characters stand, in either case. -/
structure LedBy (pattern : Pattern) (lead : List Char) : Prop where
  stands : ∀ {text length}, pattern text = some length → lead <+: text.map foldCase

theorem ledBy_literal (wanted : List Char) : (literal wanted).LedBy wanted := by
  constructor
  intro text length taken
  rw [literal_eq] at taken
  split at taken
  · rename_i found
    exact List.isPrefixOf_iff_prefix.mp found
  · cases taken

theorem ledBy_bracketed {fits : List Char → Bool} {lead : List Char}
    (leads : ∀ inner, fits inner = true → lead <+: inner.map foldCase) :
    (bracketed fits).LedBy lead := by
  constructor
  intro text length taken
  obtain ⟨inner, rest, rfl, first⟩ := List.eq_append_cons_of_mem (mem_of_bracketed taken)
  rw [bracketed_append fits first] at taken
  split at taken
  · rename_i fit
    rw [List.map_append]
    exact (leads inner fit).trans (List.prefix_append _ _)
  · cases taken

theorem LedBy.enclosed {opening : Pattern} {lead : List Char} (led : opening.LedBy lead)
    (closing : Pattern) : (enclosed opening closing).LedBy lead := by
  constructor
  intro text length taken
  obtain ⟨start, between, finish, opened, -⟩ := enclosed_eq_some_iff.mp taken
  exact led.stands opened

/-- Where other characters stand, neither a part of the leading ones nor more than them, a pattern
does not match. -/
theorem LedBy.eq_none {lead other : List Char} (led : pattern.LedBy lead)
    (here : other <+: text.map foldCase) (longer : ¬ lead <+: other) (shorter : ¬ other <+: lead) :
    pattern text = none := by
  cases taken : pattern text with
  | none => rfl
  | some length =>
    rcases List.prefix_or_prefix_of_prefix (led.stands taken) here with reached | reached
    · exact absurd reached longer
    · exact absurd reached shorter

/-- The first place of a mark that cannot overlap itself is behind a text without it. -/
theorem LedBy.silent_of_absent {lead mark content : List Char} (led : pattern.LedBy lead)
    (part : mark <+: lead) (other : caseless mark = true)
    (unbordered : ∀ border ∈ mark.inits, border <:+ mark → border = [] ∨ border = mark)
    (absent : ¬ mark <:+: content) (rest : List Char) : Silent pattern content (mark ++ rest) := by
  intro suffix nonempty inside
  cases taken : pattern (suffix ++ (mark ++ rest)) with
  | none => rfl
  | some length =>
    have found := prefix_of_map_foldCase (part.trans (led.stands taken)) other
    have reached := List.prefix_append suffix (mark ++ rest)
    -- The mark would stand in the content, or begin there and overlap the mark behind it.
    rcases Nat.le_total mark.length suffix.length with short | long
    · have within := List.prefix_of_prefix_length_le found reached short
      exact absurd (within.isInfix.trans inside.isInfix) absent
    · obtain ⟨border, whole⟩ := List.prefix_of_prefix_length_le reached found long
      have lengths : suffix.length + border.length = mark.length := by
        rw [← whole, List.length_append]
      have again : border <+: mark := by
        rw [← whole, List.prefix_append_right_inj] at found
        rw [whole] at found
        exact List.prefix_of_prefix_length_le found (List.prefix_append mark rest) (by omega)
      rcases unbordered border ((List.mem_inits _ _).mpr again) ⟨suffix, whole⟩ with empty | same
      · rw [empty, List.append_nil] at whole
        rw [whole] at inside
        exact absurd inside.isInfix absent
      · rw [same] at lengths
        exact absurd (List.eq_nil_of_length_eq_zero (by omega)) nonempty

/-- Where a pattern takes something, it takes no more than there is, and a text behind matters
neither there nor further ahead. -/
structure Steady (pattern : Pattern) : Prop where
  within : ∀ {text length}, pattern text = some length → length ≤ text.length
  ahead : ∀ {text length}, pattern text = some length → ∀ before rest,
    pattern (before ++ text ++ rest) = pattern (before ++ text)

theorem steady_literal (wanted : List Char) : Steady (literal wanted) := by
  have bounded {text : List Char} {length : Nat} (taken : literal wanted text = some length) :
      wanted.length ≤ text.length ∧ length = wanted.length := by
    rw [literal_eq] at taken
    split at taken
    · rename_i found
      cases taken
      have shorter := (List.isPrefixOf_iff_prefix.mp found).length_le
      rw [List.length_map] at shorter
      exact ⟨shorter, rfl⟩
    · cases taken
  constructor
  · intro text length taken
    rw [(bounded taken).2]
    exact (bounded taken).1
  · intro text length taken before rest
    have enough : wanted.length ≤ ((before ++ text).map foldCase).length := by
      rw [List.length_map, List.length_append]
      exact Nat.le_add_left_of_le (bounded taken).1
    have same : wanted.isPrefixOf ((before ++ text ++ rest).map foldCase) =
        wanted.isPrefixOf ((before ++ text).map foldCase) := by
      rw [Bool.eq_iff_iff, List.isPrefixOf_iff_prefix, List.isPrefixOf_iff_prefix, List.map_append,
        List.prefix_iff_eq_take, List.prefix_iff_eq_take, List.take_append_of_le_length enough]
    rw [literal_eq, literal_eq, same]

theorem steady_bracketed (fits : List Char → Bool) : Steady (bracketed fits) := by
  constructor
  · intro text length taken
    obtain ⟨inner, rest, rfl, first⟩ := List.eq_append_cons_of_mem (mem_of_bracketed taken)
    rw [bracketed_append fits first] at taken
    split at taken
    · cases taken
      rw [List.length_append, List.length_cons]
      omega
    · cases taken
  · intro text length taken before rest
    exact bracketed_append_of_mem fits (List.mem_append_right before (mem_of_bracketed taken)) rest

namespace Steady

theorem append (steady : Steady pattern) {length : Nat} (taken : pattern text = some length)
    (rest : List Char) : pattern (text ++ rest) = some length := by
  have same := steady.ahead taken [] rest
  rwa [List.nil_append, taken] at same

theorem search_append (steady : Steady pattern) {found : Nat × Nat}
    (first : pattern.search text = some found) (rest : List Char) :
    pattern.search (text ++ rest) = some found := by
  induction text generalizing found with
  | nil =>
    obtain ⟨length, here, rfl⟩ := Option.map_eq_some_iff.mp first
    exact search_of_eq_some (steady.append here rest)
  | cons c text ih =>
    rw [search] at first
    split at first
    · rename_i length here
      cases first
      exact search_of_eq_some (steady.append here rest)
    · -- A match further ahead is of no shorter text, so there is none here with more behind either.
      rename_i notHere
      obtain ⟨⟨start, length⟩, later, rfl⟩ := Option.map_eq_some_iff.mp first
      have still := steady.ahead (search_spec later).2 (c :: text.take start) rest
      rw [List.cons_append, List.take_append_drop, List.cons_append, notHere] at still
      rw [List.cons_append, search, still, ih later]
      rfl

end Steady

/-- What is enclosed stays enclosed when the text goes on. -/
theorem enclosed_append {opening closing : Pattern} (first : Steady opening)
    (last : Steady closing) {length : Nat} (taken : enclosed opening closing text = some length)
    (rest : List Char) : enclosed opening closing (text ++ rest) = some length := by
  obtain ⟨start, between, finish, opened, closed, rfl⟩ := enclosed_eq_some_iff.mp taken
  apply enclosed_eq_some_iff.mpr
  refine ⟨start, between, finish, first.append opened rest, ?_, rfl⟩
  rw [List.drop_append_of_le_length (first.within opened)]
  exact last.search_append closed rest

/-- What is not found in a text up to a closing bracket is not found there either when the text goes
on. -/
theorem silent_of_search_eq_none {fits : List Char → Bool} (closed : ['>'] <:+ front)
    (absent : (bracketed fits).search front = none) (rest : List Char) :
    Silent (bracketed fits) front rest := by
  intro suffix nonempty inside
  have alone := (search_eq_none_iff.mp absent).1 suffix nonempty inside
  rw [List.append_nil] at alone
  have bracket : '>' ∈ suffix := by
    rcases List.suffix_or_suffix_of_suffix closed inside with within | single
    · exact within.mem List.mem_cons_self
    · obtain ⟨c, more, rfl⟩ := List.exists_cons_of_ne_nil nonempty
      rcases List.suffix_cons_iff.mp single with same | empty
      · rw [same]
        exact List.mem_cons_self
      · exact absurd (List.suffix_nil.mp empty) nonempty
  rw [bracketed_append_of_mem fits bracket, alone]

theorem closed_of_bracketed {fits : List Char → Bool}
    (whole : bracketed fits text = some text.length) : ['>'] <:+ text := by
  obtain ⟨inner, rest, rfl, first⟩ := List.eq_append_cons_of_mem (mem_of_bracketed whole)
  rw [bracketed_append fits first] at whole
  split at whole
  · have same : rest.length = 0 := by
      have lengths := Option.some.inj whole
      rw [List.length_append, List.length_cons] at lengths
      omega
    rw [List.eq_nil_of_length_eq_zero same]
    exact List.suffix_append _ _
  · cases whole

end Relevance.Pattern
