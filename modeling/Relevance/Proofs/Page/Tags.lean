import Mathlib
import Relevance.Page.Markup

set_option autoImplicit false

namespace Relevance

namespace Pattern

/-- Only small letters have other forms. -/
theorem eq_of_foldCase {c wanted : Char} (folded : foldCase c = wanted)
    (other : wanted.isLower = false) : c = wanted := by
  unfold foldCase at folded
  split at folded
  · rw [← folded] at other
    cases other
  · split at folded
    · rw [← folded] at other
      cases other
    · by_cases upper : c.isUpper = true
      · have lower : c.toLower.isLower = true := by
          rw [Char.isLower_toLower_eq_isAlpha, Char.isAlpha, upper, Bool.true_or]
        rw [folded, other] at lower
        cases lower
      · rwa [Char.toLower_eq_of_not_isUpper upper] at folded

def caseless (text : List Char) : Bool :=
  text.all fun c => !c.isLower

/-- A text that folds to other characters than small letters is what it folds to. -/
theorem eq_of_map_foldCase {text wanted : List Char} (folded : text.map foldCase = wanted)
    (other : caseless wanted = true) : text = wanted := by
  subst folded
  induction text with
  | nil => rfl
  | cons c text ih =>
    rw [caseless, List.map_cons, List.all_cons, Bool.and_eq_true_iff, Bool.not_eq_true'] at other
    rw [List.map_cons, ← ih other.2, ← eq_of_foldCase rfl other.1]

theorem prefix_of_map_foldCase {text wanted : List Char} (found : wanted <+: text.map foldCase)
    (other : caseless wanted = true) : wanted <+: text := by
  obtain ⟨rest, whole⟩ := found
  obtain ⟨front, back, rfl, folded, -⟩ := List.map_eq_append_iff.mp whole.symm
  rw [← eq_of_map_foldCase folded other]
  exact List.prefix_append _ _

/-- A literal is taken exactly where its letters are, in either case. -/
theorem literal_eq (wanted text : List Char) : literal wanted text =
    if wanted.isPrefixOf (text.map foldCase) then some wanted.length else none := by
  induction wanted generalizing text with
  | nil => rfl
  | cons c wanted ih =>
    cases text with
    | nil => rfl
    | cons d text =>
      rw [literal, List.map_cons, List.isPrefixOf_cons_cons, ih]
      by_cases same : foldCase d = c
      · rw [if_pos same, beq_iff_eq.mpr same.symm, Bool.true_and]
        split <;> rfl
      · rw [if_neg same, beq_eq_false_iff_ne.mpr (Ne.symm same), Bool.false_and]
        rfl

theorem through_append {mark : Char} {front : List Char} (absent : mark ∉ front)
    (rest : List Char) : through mark (front ++ mark :: rest) = some (front.length + 1) := by
  induction front with
  | nil => rw [List.nil_append, through, if_pos rfl]; rfl
  | cons c front ih =>
    rw [List.mem_cons, not_or] at absent
    rw [List.cons_append, through, if_neg (Ne.symm absent.1), ih absent.2]
    rfl

theorem through_of_not_mem {mark : Char} {text : List Char} (absent : mark ∉ text) :
    through mark text = none := by
  induction text with
  | nil => rfl
  | cons c text ih =>
    rw [List.mem_cons, not_or] at absent
    rw [through, if_neg (Ne.symm absent.1), ih absent.2]
    rfl

/-- A tag with a suitable text in front of its closing bracket. -/
def bracketed (fits : List Char → Bool) : Pattern := fun text =>
  let inner := text.takeWhile (· ≠ '>')
  if fits inner && decide (inner.length < text.length) then some (inner.length + 1) else none

theorem takeWhile_append_stop {holds : Char → Bool} {front : List Char} {stop : Char}
    (all : ∀ c ∈ front, holds c = true) (stops : holds stop = false) (rest : List Char) :
    (front ++ stop :: rest).takeWhile holds = front := by
  rw [List.takeWhile_append_of_pos all, List.takeWhile_cons_of_neg (ne_true_of_eq_false stops),
    List.append_nil]

theorem takeWhile_append_bracket {inner : List Char} (closed : '>' ∉ inner) (rest : List Char) :
    (inner ++ '>' :: rest).takeWhile (· ≠ '>') = inner := by
  apply takeWhile_append_stop _ (by decide)
  intro c member
  exact decide_eq_true fun bracket => closed (bracket ▸ member)

theorem bracketed_append (fits : List Char → Bool) {inner : List Char} (closed : '>' ∉ inner)
    (rest : List Char) : bracketed fits (inner ++ '>' :: rest) =
      if fits inner then some (inner.length + 1) else none := by
  have inside : inner.length < (inner ++ '>' :: rest).length := by
    rw [List.length_append, List.length_cons]
    omega
  rw [bracketed, takeWhile_append_bracket closed, decide_eq_true inside, Bool.and_true]

theorem bracketed_of_not_mem (fits : List Char → Bool) {text : List Char} (unclosed : '>' ∉ text) :
    bracketed fits text = none := by
  have whole : text.takeWhile (· ≠ '>') = text := by
    rw [List.takeWhile_eq_self_iff]
    intro c member
    exact decide_eq_true fun bracket => unclosed (bracket ▸ member)
  rw [bracketed, whole, decide_eq_false (Nat.lt_irrefl _), Bool.and_false,
    if_neg Bool.false_ne_true]

theorem mem_of_bracketed {fits : List Char → Bool} {text : List Char} {length : Nat}
    (taken : bracketed fits text = some length) : '>' ∈ text := by
  by_contra unclosed
  rw [bracketed_of_not_mem fits unclosed] at taken
  cases taken

theorem bracketed_append_of_mem (fits : List Char → Bool) {front : List Char}
    (closed : '>' ∈ front) (rest : List Char) :
    bracketed fits (front ++ rest) = bracketed fits front := by
  obtain ⟨inner, more, rfl, first⟩ := List.eq_append_cons_of_mem closed
  rw [List.append_assoc, List.cons_append, bracketed_append fits first, bracketed_append fits first]

/-- Two patterns that agree on texts with a closing bracket, and take nothing without one. -/
theorem eq_bracketed {pattern : Pattern} {fits : List Char → Bool}
    (closed : ∀ inner rest, '>' ∉ inner → pattern (inner ++ '>' :: rest) =
      if fits inner then some (inner.length + 1) else none)
    (unclosed : ∀ text, '>' ∉ text → pattern text = none) : pattern = bracketed fits := by
  funext text
  by_cases bracket : '>' ∈ text
  · obtain ⟨inner, rest, rfl, first⟩ := List.eq_append_cons_of_mem bracket
    rw [closed inner rest first, bracketed_append fits first]
  · rw [unclosed text bracket, bracketed_of_not_mem fits bracket]

/-- Where a prefix ends does not matter to a text behind it that starts with another character. -/
theorem isPrefixOf_map_append {wanted inner : List Char} (plain : '>' ∉ wanted)
    (rest : List Char) : wanted.isPrefixOf ((inner ++ '>' :: rest).map foldCase) =
      wanted.isPrefixOf (inner.map foldCase) := by
  induction wanted generalizing inner with
  | nil => simp
  | cons c wanted ih =>
    rw [List.mem_cons, not_or] at plain
    cases inner with
    | nil =>
      have other : (c == foldCase '>') = false := beq_eq_false_iff_ne.mpr (Ne.symm plain.1)
      rw [List.nil_append, List.map_cons, List.isPrefixOf_cons_cons, other]
      rfl
    | cons d inner =>
      rw [List.cons_append, List.map_cons, List.map_cons, List.isPrefixOf_cons_cons,
        List.isPrefixOf_cons_cons, ih plain.2]

theorem literal_followedBy {wanted inner : List Char} (plain : '>' ∉ wanted)
    (second : Pattern) (rest : List Char) :
    (literal wanted).followedBy second (inner ++ '>' :: rest) =
      if wanted.isPrefixOf (inner.map foldCase) then
        (second (inner.drop wanted.length ++ '>' :: rest)).map (wanted.length + ·)
      else none := by
  rw [followedBy, literal_eq, isPrefixOf_map_append plain]
  split
  · rename_i found
    have shorter : wanted.length ≤ inner.length := by
      have bounded := (List.isPrefixOf_iff_prefix.mp found).length_le
      rwa [List.length_map] at bounded
    change (second _).bind _ = _
    rw [List.drop_append_of_le_length shorter]
    cases second (inner.drop wanted.length ++ '>' :: rest) <;> rfl
  · rfl

/-- A literal and a pattern that takes so much of each text up to its closing bracket make a tag. -/
theorem literal_followedBy_eq {wanted : List Char} (plain : '>' ∉ wanted) {second : Pattern}
    {fits : List Char → Bool} (tagged : second = bracketed fits) :
    (literal wanted).followedBy second = bracketed fun inner =>
      wanted.isPrefixOf (inner.map foldCase) && fits (inner.drop wanted.length) := by
  apply eq_bracketed
  · intro inner rest closed
    have later : '>' ∉ inner.drop wanted.length :=
      fun member => closed (List.mem_of_mem_drop member)
    rw [literal_followedBy plain, tagged, bracketed_append fits later]
    by_cases found : wanted.isPrefixOf (inner.map foldCase) = true
    · have shorter := (List.isPrefixOf_iff_prefix.mp found).length_le
      rw [List.length_map] at shorter
      rw [if_pos found, found, Bool.true_and]
      split
      · rw [Option.map_some, List.length_drop]
        congr 1
        omega
      · rfl
    · rw [if_neg found, eq_false_of_ne_true found, Bool.false_and]
      rfl
  · intro text unclosed
    have later : second (text.drop wanted.length) = none := by
      rw [tagged, bracketed_of_not_mem]
      exact fun member => unclosed (List.mem_of_mem_drop member)
    rw [followedBy, literal_eq]
    split
    · change (second _).bind _ = none
      rw [later]
      rfl
    · rfl

theorem through_eq : through '>' = bracketed fun _ => true := by
  apply eq_bracketed
  · intro inner rest closed
    exact through_append closed rest
  · intro text unclosed
    exact through_of_not_mem unclosed

theorem followedBy_assoc (first second third : Pattern) :
    (first.followedBy second).followedBy third = first.followedBy (second.followedBy third) := by
  funext text
  simp only [followedBy]
  cases first text with
  | none => rfl
  | some length =>
    change Option.bind (Option.bind (second _) _) _ = Option.bind (Option.bind (second _) _) _
    cases second (text.drop length) with
    | none => rfl
    | some more =>
      change Option.bind (third _) _ = Option.bind (Option.bind (third _) _) _
      rw [List.drop_drop]
      cases third (text.drop (length + more)) with
      | none => rfl
      | some last => exact congrArg Option.some (Nat.add_assoc _ _ _)

theorem blanks_followedBy_cons (second : Pattern) (c : Char) (text : List Char) :
    blanks.followedBy second (c :: text) =
      if isBlank c then (blanks.followedBy second text).map (· + 1) else second (c :: text) := by
  change Option.bind _ _ = _
  by_cases blank : isBlank c = true
  · rw [if_pos blank]
    change _ = Option.map _ (Option.bind _ _)
    rw [List.takeWhile_cons_of_pos blank, List.length_cons, List.drop_succ_cons]
    cases second (text.drop (text.takeWhile isBlank).length) with
    | none => rfl
    | some length => exact congrArg Option.some (Nat.add_right_comm _ _ _)
  · rw [if_neg blank, List.takeWhile_cons_of_neg blank, List.length_nil, List.drop_zero]
    cases second (c :: text) with
    | none => rfl
    | some length => exact congrArg Option.some (Nat.zero_add _)

/-- White space and a closing bracket. -/
theorem blanks_followedBy_eq :
    blanks.followedBy (literal ['>']) = bracketed fun inner => inner.all isBlank := by
  have other {c : Char} (text : List Char) (solid : c ≠ '>') :
      literal ['>'] (c :: text) = none := by
    rw [literal, if_neg]
    intro folded
    exact solid (eq_of_foldCase folded rfl)
  apply eq_bracketed
  · intro inner rest closed
    induction inner with
    | nil => rfl
    | cons c inner ih =>
      rw [List.mem_cons, not_or] at closed
      rw [List.cons_append, blanks_followedBy_cons, ih closed.2, List.all_cons]
      by_cases blank : isBlank c = true
      · rw [if_pos blank, blank, Bool.true_and]
        split <;> rfl
      · rw [if_neg blank, other _ (Ne.symm closed.1), eq_false_of_ne_true blank, Bool.false_and]
        rfl
  · intro text unclosed
    induction text with
    | nil => rfl
    | cons c text ih =>
      rw [List.mem_cons, not_or] at unclosed
      rw [blanks_followedBy_cons, ih unclosed.2, other _ (Ne.symm unclosed.1)]
      split <;> rfl

end Pattern

namespace Markup

open Pattern

theorem openTag_eq {name : String} (plain : '>' ∉ name.toList) : openTag name =
    bracketed fun inner => ('<' :: name.toList).isPrefixOf (inner.map foldCase) := by
  have plain : '>' ∉ '<' :: name.toList := List.not_mem_cons_of_ne_of_not_mem (by decide) plain
  rw [openTag, literal_followedBy_eq plain through_eq]
  simp only [Bool.and_true]

theorem closeTag_eq {name : String} (plain : '>' ∉ name.toList) : closeTag name =
    bracketed fun inner => ('<' :: '/' :: name.toList).isPrefixOf (inner.map foldCase) &&
      (inner.drop (name.toList.length + 2)).all isBlank := by
  have plain : '>' ∉ '<' :: '/' :: name.toList :=
    List.not_mem_cons_of_ne_of_not_mem (by decide)
      (List.not_mem_cons_of_ne_of_not_mem (by decide) plain)
  rw [closeTag, followedBy_assoc, literal_followedBy_eq plain blanks_followedBy_eq]
  rfl

theorem tag_eq : tag = bracketed fun inner => ['<'].isPrefixOf (inner.map foldCase) := by
  rw [tag, literal_followedBy_eq (by decide) through_eq]
  simp only [Bool.and_true]

end Markup

end Relevance
