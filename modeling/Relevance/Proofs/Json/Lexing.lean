import Relevance.Proofs.Json.Grammar
import Relevance.Proofs.Text.Runs

set_option autoImplicit false

namespace Relevance.Json

variable {c : Char} {text written rest digits : List Char}

theorem lexemes_cons_of_space (space : isSpace c = true) (rest : List Char) :
    lexemes (c :: rest) = lexemes rest := by
  rw [lexemes, if_pos space]

theorem Spacing.lexemes_append {spaces : List Char} (spacing : Spacing spaces) (rest : List Char) :
    lexemes (spaces ++ rest) = lexemes rest := by
  induction spaces with
  | nil => rfl
  | cons c more ih =>
    rw [List.cons_append, lexemes_cons_of_space (spacing c List.mem_cons_self)]
    exact ih fun d member => spacing d (List.mem_cons_of_mem _ member)

/-- A token is cut off where its lexeme ends. -/
theorem lexemes_of_scan {lexeme : Lexeme} (text rest : List Char) (noSpace : isSpace c = false)
    (scanned : Lexeme.scan c (text ++ rest) = (lexeme, text.length)) :
    lexemes (c :: (text ++ rest)) = lexeme :: lexemes rest := by
  rw [lexemes, if_neg (ne_true_of_eq_false noSpace), scanned]
  simp only [List.drop_left]

theorem codeUnit_append {value : Nat} (number : IsUnit digits value) (rest : List Char) :
    codeUnit (digits ++ rest) = .ok value := by
  have front : (digits ++ rest).take 4 = digits := List.take_left' number.four
  rw [codeUnit, front]
  simp only [number.four, number.all, number.value_eq, and_self, if_true]

theorem escape_short {letter : Char} (known : (letter, c) ∈ shortEscapes) (rest : List Char) :
    escape (letter :: rest) = .ok (c, 1) := by
  simp only [shortEscapes, List.mem_cons, Prod.mk.injEq, List.not_mem_nil, or_false] at known
  rcases known with ⟨rfl, rfl⟩ | ⟨rfl, rfl⟩ | ⟨rfl, rfl⟩ | ⟨rfl, rfl⟩ | ⟨rfl, rfl⟩ | ⟨rfl, rfl⟩ |
    ⟨rfl, rfl⟩ | ⟨rfl, rfl⟩ <;> rfl

/-- A character is not one half of a pair. -/
theorem not_half (c : Char) : isTrailUnit c.toNat = false ∧ isLeadUnit c.toNat = false := by
  have valid : c.toNat.isValidChar := c.valid
  unfold Nat.isValidChar at valid
  unfold isTrailUnit isLeadUnit
  generalize c.toNat = code at valid ⊢
  constructor <;> simp only [Bool.and_eq_false_iff, decide_eq_false_iff_not] <;> omega

theorem escape_unit (number : IsUnit digits c.toNat) (rest : List Char) :
    escape ('u' :: (digits ++ rest)) = .ok (c, 5) := by
  obtain ⟨noTrail, noLead⟩ := not_half c
  rw [escape, codeUnit_append number]
  change (if isTrailUnit c.toNat = true then _ else _) = _
  simp only [noTrail, noLead, Bool.false_eq_true, if_false, Char.ofNat_toNat]
  rfl

theorem escape_pair {first second : List Char} {lead trail : Nat}
    (leads : 0xd800 ≤ lead ∧ lead < 0xdc00) (trails : 0xdc00 ≤ trail ∧ trail < 0xe000)
    (number : c.toNat = pairedUnits lead trail) (leadUnit : IsUnit first lead)
    (trailUnit : IsUnit second trail) (rest : List Char) :
    escape ('u' :: (first ++ '\\' :: 'u' :: (second ++ rest))) = .ok (c, 11) := by
  have noTrail : isTrailUnit lead = false := by
    simp only [isTrailUnit, Bool.and_eq_false_iff, decide_eq_false_iff_not]
    omega
  have isLead : isLeadUnit lead = true := by
    simpa only [isLeadUnit, Bool.and_eq_true, decide_eq_true_eq] using leads
  have isTrail : isTrailUnit trail = true := by
    simpa only [isTrailUnit, Bool.and_eq_true, decide_eq_true_eq] using trails
  have behind : (first ++ '\\' :: 'u' :: (second ++ rest)).drop 4 =
      '\\' :: 'u' :: (second ++ rest) := List.drop_left' leadUnit.four
  have paired : Json.trailUnit ('\\' :: 'u' :: (second ++ rest)) = .ok trail := by
    rw [Json.trailUnit, codeUnit_append trailUnit]
    change (if isTrailUnit trail = true then _ else _) = _
    rw [if_pos isTrail]
  have same : Char.ofNat (pairedUnits lead trail) = c := by
    rw [← number, Char.ofNat_toNat]
  rw [escape, codeUnit_append leadUnit]
  change (if isTrailUnit lead = true then _ else _) = _
  simp only [noTrail, isLead, Bool.false_eq_true, if_false, if_true, behind, paired]
  exact congrArg (fun c => Except.ok (c, 11)) same

/-- However a character is written, it is read as one, and nothing behind it is read with it. -/
theorem Writes.stringBody_append (writes : Writes c written) (rest : List Char) :
    stringBody (written ++ rest) = (stringBody rest).map fun body =>
      (c :: body.1, body.2 + written.length) := by
  have escaped {inner : List Char} (read : escape (inner ++ rest) = .ok (c, inner.length)) :
      stringBody ('\\' :: (inner ++ rest)) = (stringBody rest).map fun body =>
        (c :: body.1, body.2 + (inner.length + 1)) := by
    rw [stringBody, if_neg (by decide), if_pos rfl, read]
    change (do let body ← stringBody ((inner ++ rest).drop inner.length); _) = _
    rw [List.drop_left]
    cases stringBody rest <;> rfl
  cases writes with
  | plain asItStands =>
    simp only [isPlain, Bool.and_eq_true, decide_eq_true_eq] at asItStands
    obtain ⟨⟨noQuote, noBackslash⟩, noControl⟩ := asItStands
    rw [List.singleton_append, stringBody, if_neg noQuote, if_neg noBackslash,
      if_neg (Nat.not_lt.mpr noControl)]
    cases stringBody rest <;> rfl
  | short known => exact escaped (escape_short known rest)
  | @unit digits number =>
    have read := escape_unit number rest
    rw [← List.cons_append, show 5 = ('u' :: digits).length by simp [number.four]] at read
    exact escaped read
  | @pair first second lead trail leads trails number leadUnit trailUnit =>
    have read := escape_pair leads trails number leadUnit trailUnit rest
    have whole : 'u' :: (first ++ '\\' :: 'u' :: (second ++ rest)) =
        'u' :: (first ++ '\\' :: 'u' :: second) ++ rest := by simp
    rw [whole, show 11 = ('u' :: (first ++ '\\' :: 'u' :: second)).length by
      simp [leadUnit.four, trailUnit.four]] at read
    exact escaped read

/-- A string is read up to its closing quote. -/
theorem stringBody_of_writes {pieces : List (List Char)} (writes : List.Forall₂ Writes text pieces)
    (rest : List Char) :
    stringBody (pieces.flatten ++ '"' :: rest) = .ok (text, pieces.flatten.length + 1) := by
  induction writes with
  | nil =>
    rw [List.flatten_nil, List.nil_append, stringBody, if_pos rfl]
    rfl
  | cons first others ih =>
    rw [List.flatten_cons, List.append_assoc, first.stringBody_append, ih, List.length_append]
    simp only [Except.map]
    congr 2
    omega

theorem WritesString.lexemes_append {string : String} (writes : WritesString string written)
    (rest : List Char) :
    lexemes (written ++ rest) = .head (.string string) :: lexemes rest := by
  obtain ⟨pieces, each, rfl⟩ := writes
  rw [List.cons_append]
  apply lexemes_of_scan _ _ (by decide)
  rw [List.append_assoc, List.singleton_append]
  change Lexeme.ofString _ = _
  rw [Lexeme.ofString, stringBody_of_writes each]
  simp only [String.ofList_toList, List.length_append, List.length_singleton]

theorem lexemes_null (rest : List Char) :
    lexemes ("null".toList ++ rest) = .head .null :: lexemes rest :=
  lexemes_of_scan "ull".toList rest (by decide) rfl

theorem lexemes_true (rest : List Char) :
    lexemes ("true".toList ++ rest) = .head (.bool true) :: lexemes rest :=
  lexemes_of_scan "rue".toList rest (by decide) rfl

theorem lexemes_false (rest : List Char) :
    lexemes ("false".toList ++ rest) = .head (.bool false) :: lexemes rest :=
  lexemes_of_scan "alse".toList rest (by decide) rfl

theorem lexemes_openArray (rest : List Char) : lexemes ('[' :: rest) = .head .array :: lexemes rest :=
  lexemes_of_scan [] rest (by decide) rfl

theorem lexemes_closeArray (rest : List Char) : lexemes (']' :: rest) = .closeArray :: lexemes rest :=
  lexemes_of_scan [] rest (by decide) rfl

theorem lexemes_openObject (rest : List Char) :
    lexemes ('\x7b' :: rest) = .head .object :: lexemes rest :=
  lexemes_of_scan [] rest (by decide) rfl

theorem lexemes_closeObject (rest : List Char) :
    lexemes ('\x7d' :: rest) = .closeObject :: lexemes rest :=
  lexemes_of_scan [] rest (by decide) rfl

theorem lexemes_comma (rest : List Char) : lexemes (',' :: rest) = .comma :: lexemes rest :=
  lexemes_of_scan [] rest (by decide) rfl

theorem lexemes_colon (rest : List Char) : lexemes (':' :: rest) = .colon :: lexemes rest :=
  lexemes_of_scan [] rest (by decide) rfl

def StopsNumber (rest : List Char) : Prop :=
  ∀ c ∈ rest.head?, c.isDigit = false ∧ c ≠ '.' ∧ c ≠ 'e' ∧ c ≠ 'E'

theorem stopsNumber_cons {stop : Char}
    (mark : stop.isDigit = false ∧ stop ≠ '.' ∧ stop ≠ 'e' ∧ stop ≠ 'E') (rest : List Char) :
    StopsNumber (stop :: rest) := by
  rintro _ ⟨⟩
  exact mark

theorem Spacing.stopsNumber {spaces : List Char} (spacing : Spacing spaces)
    (stops : StopsNumber rest) : StopsNumber (spaces ++ rest) := by
  cases spaces with
  | nil => exact stops
  | cons space more =>
    have held := spacing space List.mem_cons_self
    simp only [isSpace, Bool.or_eq_true, decide_eq_true_eq] at held
    apply stopsNumber_cons
    rcases held with ((rfl | rfl) | rfl) | rfl <;> decide

theorem IsRun.digitRun_append (run : IsRun digits) (stops : ∀ c ∈ rest.head?, c.isDigit = false) :
    digitRun (digits ++ rest) = .ok digits := by
  have nonempty : digits.isEmpty = false := List.isEmpty_eq_false_iff.mpr run.1
  simp only [digitRun, (span_append run.2 stops).1, nonempty, Bool.false_eq_true, if_false]

theorem IsRun.exists_cons (run : IsRun digits) :
    ∃ first more, digits = first :: more ∧ first.isDigit = true := by
  obtain ⟨first, more, rfl⟩ := List.exists_cons_of_ne_nil run.1
  exact ⟨first, more, rfl, run.2 first List.mem_cons_self⟩

/-- The value of digits behind a sign. -/
theorem exponentRun_append {sign : List Char} (signed : sign ∈ [[], ['+'], ['-']])
    (run : IsRun digits) (stops : ∀ c ∈ rest.head?, c.isDigit = false) :
    exponentRun (sign ++ (digits ++ rest)) =
      .ok (if sign = ['-'] then -(digitsValue digits : Int) else digitsValue digits, rest) := by
  have read := run.digitRun_append stops
  have behind : (digits ++ rest).drop digits.length = rest := List.drop_left
  unfold exponentRun
  split
  rename_i negative text same
  have parts : (negative, text) = (decide (sign = ['-']), digits ++ rest) := by
    simp only [List.mem_cons, List.not_mem_nil, or_false] at signed
    rw [← same]
    rcases signed with rfl | rfl | rfl
    · -- a digit is no sign
      obtain ⟨first, more, rfl, digit⟩ := run.exists_cons
      split
      · rename_i signed
        cases signed
        cases digit
      · rename_i signed
        cases signed
        cases digit
      · rfl
    · rfl
    · rfl
  cases parts
  rw [read]
  simp only [decide_eq_true_eq]
  exact congrArg (fun rest => Except.ok (_, rest)) behind

/-- The sign at the start of a number, and what follows it. -/
def signPart : List Char → Bool × List Char
  | '-' :: rest => (true, rest)
  | text => (false, text)

/-- The digits behind a point, if there is one, and what follows them. -/
def fractionPart : List Char → Except TextFault (List Char × List Char)
  | '.' :: rest => do
    let digits ← digitRun rest
    return (digits, rest.drop digits.length)
  | text => .ok ([], text)

/-- The exponent behind a mark, if there is one, and what follows it. -/
def exponentPart : List Char → Except TextFault (Option Int × List Char)
  | [] => .ok (none, [])
  | mark :: rest =>
    if mark = 'e' ∨ mark = 'E' then do
      let (exponent, rest) ← exponentRun rest
      return (some exponent, rest)
    else .ok (none, mark :: rest)

/-- What the exponent makes of the parts before it. -/
theorem exponentPart_map (negative : Bool) (whole fraction text : List Char) :
    (match text with
      | mark :: rest =>
        if mark = 'e' ∨ mark = 'E' then do
          let (exponent, rest) ← exponentRun rest
          return (⟨negative, whole, fraction, some exponent⟩, rest)
        else return (⟨negative, whole, fraction, none⟩, text)
      | [] => return (⟨negative, whole, fraction, none⟩, text) :
      Except TextFault (Number × List Char)) =
      (exponentPart text).map fun found => (⟨negative, whole, fraction, found.1⟩, found.2) := by
  cases text with
  | nil => rfl
  | cons mark rest =>
    simp only [exponentPart]
    split
    · cases exponentRun rest <;> rfl
    · rfl

/-- A number is scanned part by part. -/
theorem Number.scan_of_parts {text behind whole fraction after rest : List Char} {negative : Bool}
    {exponent : Option Int} (sign : signPart text = (negative, behind))
    (run : digitRun behind = .ok whole) (leading : whole.head? = some '0' → whole.length = 1)
    (point : fractionPart (behind.drop whole.length) = .ok (fraction, after))
    (power : exponentPart after = .ok (exponent, rest)) :
    Number.scan text = .ok (⟨negative, whole, fraction, exponent⟩, rest) := by
  have noLead : ¬ (whole.head? = some '0' ∧ 1 < whole.length) := by
    rintro ⟨zero, long⟩
    rw [leading zero] at long
    exact absurd long (Nat.lt_irrefl 1)
  have last := exponentPart_map negative whole fraction after
  rw [power] at last
  unfold Number.scan
  split
  rename_i negative' behind' same
  have parts : (negative', behind') = (negative, behind) := by
    rw [← same, ← sign]
    split
    · rfl
    · rename_i plain
      exact (signPart.eq_2 text plain).symm
  cases parts
  rw [run]
  change (if _ then _ else _) = _
  rw [if_neg noLead]
  simp only
  split
  · rename_i digits dotted
    rw [dotted, fractionPart] at point
    cases scanned : digitRun digits with
    | error fault =>
      rw [scanned] at point
      cases point
    | ok found =>
      rw [scanned] at point
      cases point
      exact last
  · rename_i plain
    rw [fractionPart.eq_2 _ plain] at point
    cases point
    exact last

theorem signPart_append (negative : Bool) (run : IsRun digits) (rest : List Char) :
    signPart ((if negative then ['-'] else []) ++ (digits ++ rest)) = (negative, digits ++ rest) := by
  cases negative with
  | true => rfl
  | false =>
    obtain ⟨first, more, rfl, digit⟩ := run.exists_cons
    apply signPart.eq_2
    rintro _ ⟨⟩
    cases digit

theorem fractionPart_append (run : ∀ c ∈ digits, c.isDigit = true)
    (stops : ∀ c ∈ rest.head?, c.isDigit = false ∧ c ≠ '.') :
    fractionPart ((if digits = [] then [] else '.' :: digits) ++ rest) = .ok (digits, rest) := by
  by_cases empty : digits = []
  · subst empty
    apply fractionPart.eq_2
    rintro _ rfl
    exact (stops '.' rfl).2 rfl
  · have read := IsRun.digitRun_append ⟨empty, run⟩ fun c first => (stops c first).1
    rw [if_neg empty, List.cons_append, fractionPart, read]
    change Except.ok (digits, (digits ++ rest).drop digits.length) = _
    rw [List.drop_left]

theorem WritesExponent.exponentPart_append {exponent : Option Int}
    (writes : WritesExponent exponent text) (stops : StopsNumber rest) :
    exponentPart (text ++ rest) = .ok (exponent, rest) := by
  cases writes with
  | absent =>
    cases rest with
    | nil => rfl
    | cons c rest =>
      obtain ⟨-, -, noMark⟩ := stops c rfl
      rw [List.nil_append, exponentPart, if_neg (not_or.mpr noMark)]
  | present marked signed run =>
    have read := exponentRun_append signed run fun c first => (stops c first).1
    rw [List.cons_append, List.append_assoc, exponentPart, if_pos marked, read]
    rfl

/-- An exponent goes on neither into digits nor into a point. -/
theorem WritesExponent.stops {exponent : Option Int} (writes : WritesExponent exponent text)
    (stops : StopsNumber rest) : ∀ c ∈ (text ++ rest).head?, c.isDigit = false ∧ c ≠ '.' := by
  cases writes with
  | absent => exact fun c first => ⟨(stops c first).1, (stops c first).2.1⟩
  | present marked signed run =>
    rintro _ ⟨⟩
    rcases marked with rfl | rfl <;> decide

theorem WritesNumber.scan_append {n : Number} (writes : WritesNumber n text)
    (stops : StopsNumber rest) : Number.scan (text ++ rest) = .ok (n, rest) := by
  cases writes with
  | @mk exponent whole leading fraction exponential =>
    have pointed := exponential.stops stops
    have stopped : ∀ c ∈ ((if n.fraction = [] then [] else '.' :: n.fraction) ++
        (exponent ++ rest)).head?, c.isDigit = false := by
      split
      · exact fun c first => (pointed c first).1
      · rintro _ ⟨⟩
        rfl
    simp only [List.append_assoc]
    apply Number.scan_of_parts (signPart_append n.negative whole _) (whole.digitRun_append stopped)
      leading
    · rw [List.drop_left]
      exact fractionPart_append fraction pointed
    · exact exponential.exponentPart_append stops

/-- Numbers start with a sign or a digit. -/
theorem WritesNumber.exists_cons {n : Number} (writes : WritesNumber n text) :
    ∃ first more, text = first :: more ∧ (first = '-' ∨ first.isDigit = true) := by
  cases writes with
  | mk whole =>
    obtain ⟨first, more, same, digit⟩ := whole.exists_cons
    rw [same]
    cases n.negative with
    | true => exact ⟨'-', _, rfl, .inl rfl⟩
    | false => exact ⟨first, _, rfl, .inr digit⟩

theorem Lexeme.scan_number {first : Char} (number : first = '-' ∨ first.isDigit = true)
    (rest : List Char) : Lexeme.scan first rest = ofNumber first rest := by
  unfold Lexeme.scan
  split
  case h_11 =>
    rw [if_pos]
    simpa only [Bool.or_eq_true, decide_eq_true_eq] using number
  all_goals exact absurd number (by decide)

theorem not_space_of_number {first : Char} (number : first = '-' ∨ first.isDigit = true) :
    isSpace first = false := by
  apply Bool.eq_false_iff.mpr
  intro space
  simp only [isSpace, Bool.or_eq_true, decide_eq_true_eq] at space
  rcases space with ((rfl | rfl) | rfl) | rfl <;> exact absurd number (by decide)

/-- A number is cut off as its value, unless it is too large for one. -/
theorem WritesNumber.lexemes_append {n : Number} (writes : WritesNumber n text)
    (stops : StopsNumber rest) : lexemes (text ++ rest) =
      n.head?.elim [.broken .malformed] fun value => .head value :: lexemes rest := by
  have scanned := writes.scan_append stops
  obtain ⟨first, more, rfl, number⟩ := writes.exists_cons
  rw [List.cons_append] at scanned ⊢
  have cut : Lexeme.scan first (more ++ rest) = n.head?.elim
      (.broken .malformed, (more ++ rest).length) fun value => (.head value, more.length) := by
    rw [Lexeme.scan_number number, Lexeme.ofNumber, scanned]
    have taken : (more ++ rest).length - rest.length = more.length := by
      rw [List.length_append, Nat.add_sub_cancel_right]
    simp only [taken]
    cases n.head? <;> rfl
  cases value : n.head? with
  | none =>
    rw [value] at cut
    rw [lexemes, if_neg (ne_true_of_eq_false (not_space_of_number number)), cut]
    simp only [Option.elim, List.drop_length, lexemes]
  | some head =>
    rw [value] at cut
    exact lexemes_of_scan more rest (not_space_of_number number) cut

/-- No zero leads other digits of a natural number. -/
theorem toDigits_leading (n : Nat) :
    (Nat.toDigits 10 n).head? = some '0' → (Nat.toDigits 10 n).length = 1 := by
  have zero : ∀ n, (Nat.toDigits 10 n).head? = some '0' → n = 0 := by
    intro n
    induction n using Nat.strongRecOn with
    | ind n ih =>
      intro leads
      by_cases small : n < 10
      · rw [Nat.toDigits_of_lt_base small] at leads
        have digit : ∀ n < 10, [n.digitChar].head? = some '0' → n = 0 := by decide
        exact digit n small leads
      · rw [Nat.toDigits_of_base_le (by decide) (Nat.not_lt.mp small),
          List.head?_append_of_ne_nil _ Nat.toDigits_ne_nil] at leads
        have none := ih (n / 10) (by omega) leads
        omega
  intro leads
  rw [zero n leads]
  rfl

theorem digitsValue_toDigits (n : Nat) : digitsValue (Nat.toDigits 10 n) = n := by
  have value := Nat.ofDigitChars_ten_toDigits (n := n)
  rw [Nat.ofDigitChars] at value
  simpa only [digitsValue, digitValue, Nat.mul_comm 10] using value

/-- All digits count if the number they make fits into a word. -/
theorem appendDigits_eq (number : Nat)
    (small : digits.foldl (fun value digit => value * 10 + digitValue digit) number < UInt64.size) :
    appendDigits number digits =
      (digits.foldl (fun value digit => value * 10 + digitValue digit) number, 0) := by
  have grows (digits : List Char) : ∀ number, number ≤
      digits.foldl (fun value digit => value * 10 + digitValue digit) number := by
    induction digits with
    | nil => exact fun number => Nat.le_refl number
    | cons digit digits ih =>
      intro number
      exact Nat.le_trans (show number ≤ number * 10 + digitValue digit by omega) (ih _)
  induction digits generalizing number with
  | nil => rfl
  | cons digit digits ih =>
    rw [List.foldl_cons] at small ⊢
    rw [appendDigits, if_pos (Nat.lt_of_le_of_lt (grows digits _) small)]
    exact ih _ small

theorem writesNumber_toDigits (n : Nat) :
    WritesNumber ⟨false, Nat.toDigits 10 n, [], none⟩ (Nat.toDigits 10 n) := by
  have run : IsRun (Nat.toDigits 10 n) :=
    ⟨Nat.toDigits_ne_nil, fun _ => Nat.isDigit_of_mem_toDigits (by decide) (by decide)⟩
  have writes := WritesNumber.mk (n := ⟨false, Nat.toDigits 10 n, [], none⟩) run
    (toDigits_leading n) nofun .absent
  simpa using writes

theorem lexemes_toDigits {n : Nat} (small : n < UInt64.size) (stops : StopsNumber rest) :
    lexemes (Nat.toDigits 10 n ++ rest) = .head (.integer n) :: lexemes rest := by
  have value : digitsValue (Nat.toDigits 10 n) = n := digitsValue_toDigits n
  have all : appendDigits 0 (Nat.toDigits 10 n) = (n, 0) := by
    rw [appendDigits_eq 0 (Nat.lt_of_le_of_lt (Nat.le_of_eq value) small)]
    exact congrArg (·, 0) value
  have fits : isWord false n = true := by simpa [isWord] using small
  have head : Number.head? ⟨false, Nat.toDigits 10 n, [], none⟩ = some (.integer n) := by
    simp [Number.head?, all, fits]
  rw [(writesNumber_toDigits n).lexemes_append stops, head]
  rfl

def Head.isScalar : Head → Bool
  | array | object => false
  | _ => true

theorem Number.head?_isScalar {n : Number} {value : Head} (read : n.head? = some value) :
    value.isScalar = true := by
  unfold Number.head? at read
  split at read
  rename_i whole wholeLeft _
  split at read
  · cases read
    rfl
  · obtain ⟨x, -, rfl⟩ := Option.map_eq_some_iff.mp read
    rfl

/-- A value other than an array or object is cut off as one lexeme, or nothing can be read. -/
theorem IsScalar.lexemes_append (scalar : IsScalar text) (stops : StopsNumber rest) :
    (∃ value : Head, value.isScalar = true ∧
      lexemes (text ++ rest) = .head value :: lexemes rest) ∨
    lexemes (text ++ rest) = [.broken .malformed] := by
  cases scalar with
  | word known =>
    simp only [List.mem_cons, List.not_mem_nil, or_false] at known
    rcases known with rfl | rfl | rfl
    · exact .inl ⟨.null, rfl, lexemes_null rest⟩
    · exact .inl ⟨.bool true, rfl, lexemes_true rest⟩
    · exact .inl ⟨.bool false, rfl, lexemes_false rest⟩
  | @string string _ writes => exact .inl ⟨.string string, rfl, writes.lexemes_append rest⟩
  | @number n _ writes =>
    rw [writes.lexemes_append stops]
    cases read : n.head? with
    | none => exact .inr rfl
    | some value => exact .inl ⟨value, n.head?_isScalar read, rfl⟩

/-- A value is cut off as one lexeme if it is a scalar, and opens with a bracket otherwise, or
nothing can be read. -/
theorem IsValue.lexemes_append (value : IsValue text) (stops : StopsNumber rest) :
    (∃ head more, lexemes (text ++ rest) = .head head :: more ∧
      (head.isScalar = true → more = lexemes rest)) ∨
    lexemes (text ++ rest) = [.broken .malformed] := by
  have ofScalar (scalar : IsScalar text) :
      (∃ head more, lexemes (text ++ rest) = .head head :: more ∧
        (head.isScalar = true → more = lexemes rest)) ∨
      lexemes (text ++ rest) = [.broken .malformed] := by
    rcases scalar.lexemes_append stops with ⟨head, -, cut⟩ | broken
    · exact .inl ⟨head, _, cut, fun _ => rfl⟩
    · exact .inr broken
  obtain ⟨depth, value⟩ := value
  cases depth with
  | zero => exact ofScalar value
  | succ depth =>
    rcases value with scalar | ⟨count, array⟩ | ⟨names, object⟩
    · exact ofScalar scalar
    · obtain ⟨inner, rfl, -⟩ := array.exists_inner
      exact .inl ⟨.array, _, lexemes_openArray _, nofun⟩
    · obtain ⟨inner, rfl, -⟩ := object.exists_inner
      exact .inl ⟨.object, _, lexemes_openObject _, nofun⟩

end Relevance.Json
