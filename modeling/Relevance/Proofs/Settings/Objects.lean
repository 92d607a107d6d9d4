import Mathlib.Data.List.Nodup
import Relevance.Proofs.Settings.Reading

set_option autoImplicit false

namespace Relevance.Settings

open Json (Spacing WritesString Padded Series Bracketed Member IsScalar IsValueWithin IsValue
  StopsNumber)

variable {settings result : Settings} {draft : Draft} {reading next : Reading} {key : Key}
  {keys : List Key} {names : List String} {name : String} {text rest inner : List Char}

theorem exists_of_bind {α β : Type} {first : Except WrittenError α} {second : α → Except WrittenError β}
    {b : β} (success : first >>= second = .ok b) : ∃ a, first = .ok a ∧ second a = .ok b := by
  cases first with
  | error error => cases success
  | ok a => exact ⟨a, rfl, success⟩

theorem Draft.value_cases {head : Json.Head} (moved : draft.value key (.head head) = .ok next) :
    (head.isScalar = true ∧ ∃ settings, next = draft.enter settings) ∨
    (head = .array ∧ next = .listOpened draft) ∨ (head = .object ∧ next = .variantOpened draft) := by
  obtain _ | _ | _ | flag := key
  · cases head with
    | string name =>
      obtain ⟨similarity, -, same⟩ := exists_of_bind moved
      cases same
      exact .inl ⟨rfl, _, rfl⟩
    | object =>
      cases moved
      exact .inr (.inr ⟨rfl, rfl⟩)
    | _ => cases moved
  · cases head with
    | array =>
      cases moved
      exact .inr (.inl ⟨rfl, rfl⟩)
    | _ => cases moved
  · cases head with
    | integer value =>
      simp only [Draft.value] at moved
      split at moved
      · cases moved
        exact .inl ⟨rfl, _, rfl⟩
      · cases moved
    | _ => cases moved
  · cases head with
    | bool value =>
      cases moved
      exact .inl ⟨rfl, _, rfl⟩
    | _ => cases moved

theorem Draft.key_cases (moved : draft.key (.head (.string name)) = .ok next) :
    ∃ key : Key, key.name = name ∧ key ∉ draft.given ∧ next = .keyed (draft.give key) key := by
  simp only [Draft.key] at moved
  split at moved
  · cases moved
  · rename_i key found
    split at moved
    · cases moved
    · rename_i fresh
      cases moved
      have named : decide (key.name = name) = true :=
        List.find?_some (p := fun key : Key => decide (key.name = name)) found
      exact ⟨key, of_decide_eq_true named, fresh, rfl⟩

namespace Reading

/-- Where a text has settings, its first lexeme is one that may come next. -/
theorem exists_next {lexeme : Json.Lexeme} {more : List Json.Lexeme}
    (cut : Json.lexemes text = lexeme :: more) (success : reading.read text = .ok result) :
    ∃ next, reading.step lexeme = .ok next ∧
      ∀ rest, more = Json.lexemes rest → next.read rest = .ok result := by
  rw [read, cut, List.foldlM_cons] at success
  cases moved : reading.step lexeme with
  | error error =>
    rw [moved] at success
    cases success
  | ok next =>
    rw [moved] at success
    refine ⟨next, rfl, ?_⟩
    rintro rest rfl
    exact success

theorem ListReady.step_cases {fields : List String} {head : Json.Head}
    (ready : ListReady draft fields reading) (moved : reading.step (.head head) = .ok next) :
    head.isScalar = true ∧ ∃ fields, next = .listed draft fields := by
  cases ready <;> cases head <;> cases moved <;> exact ⟨rfl, _, rfl⟩

/-- A list that may be read is read up to its closing bracket. -/
theorem exists_of_list {form : List Char → Prop} {count : Nat} {fields : List String}
    (ready : ListReady draft fields reading) (values : ∀ text, form text → IsValue text)
    (series : Series (List.replicate count form) inner)
    (success : reading.read (inner ++ ']' :: rest) = .ok result) :
    ∃ settings, (draft.enter settings).read rest = .ok result := by
  induction count generalizing fields reading inner with
  | zero => exact absurd rfl series.ne_nil
  | succ count ih =>
    obtain ⟨first, ⟨before, value, after, front, valued, back, rfl⟩, continued⟩ :=
      series.exists_first
    have listed {more : List Char} (stops : StopsNumber more)
        (success : reading.read (before ++ (value ++ after) ++ more) = .ok result) :
        ∃ fields, (Reading.listed draft fields).read more = .ok result := by
      rw [List.append_assoc, read_spacing front, List.append_assoc] at success
      rcases (values _ valued).lexemes_append (back.stopsNumber stops) with
        ⟨head, others, cut, scalar⟩ | broken
      · obtain ⟨next, moved, later⟩ := exists_next cut success
        obtain ⟨isScalar, fields, rfl⟩ := ready.step_cases moved
        have behind := later _ (scalar isScalar)
        rw [read_spacing back] at behind
        exact ⟨fields, behind⟩
      · obtain ⟨next, moved, -⟩ := exists_next broken success
        cases ready <;> cases moved
    rcases continued with ⟨-, rfl⟩ | ⟨more, others, rfl⟩
    · obtain ⟨fields, behind⟩ := listed (Json.stopsNumber_cons (by decide) rest) success
      rw [read_of_step (Json.lexemes_closeArray rest) rfl] at behind
      exact ⟨_, behind⟩
    · rw [List.append_assoc, List.cons_append] at success
      obtain ⟨fields, behind⟩ := listed (Json.stopsNumber_cons (by decide) _) success
      rw [read_of_step (Json.lexemes_comma _) rfl] at behind
      exact ih (.continued fields) others behind

/-- A member is read by its name first, and by its value once the colon is read. -/
theorem exists_named {form : List Char → Prop} {first more : List Char}
    (padded : Padded (Member name form) first) (success : reading.read (first ++ more) = .ok result) :
    ∃ next, reading.step (.head (.string name)) = .ok next ∧
      ∃ value after, form value ∧ Spacing after ∧ ∀ awaited, next.step .colon = .ok awaited →
        awaited.read (value ++ (after ++ more)) = .ok result := by
  obtain ⟨before, member, after, front, ⟨written, left, right, value, named, space, gap, valued, rfl⟩,
    back, rfl⟩ := padded
  simp only [List.append_assoc, List.cons_append] at success
  rw [read_spacing front] at success
  obtain ⟨next, moved, later⟩ := exists_next (named.lexemes_append _) success
  refine ⟨next, moved, value, after, valued, back, fun awaited colon => ?_⟩
  have behind := later _ rfl
  rw [read_spacing space, read_of_step (Json.lexemes_colon _) colon, read_spacing gap] at behind
  exact behind

/-- So is an object that names a similarity. -/
theorem exists_of_variant {form : List Char → Prop} (values : ∀ text, form text → IsValue text)
    (series : Series (names.map fun name => Member name form) inner)
    (success : (variantOpened draft).read (inner ++ '\x7d' :: rest) = .ok result) :
    ∃ settings, (draft.enter settings).read rest = .ok result := by
  cases names with
  | nil => exact absurd rfl series.ne_nil
  | cons name names =>
    obtain ⟨first, padded, continued⟩ := series.exists_first
    have given {more : List Char} (stops : StopsNumber more)
        (success : (variantOpened draft).read (first ++ more) = .ok result) :
        ∃ similarity, (variantGiven draft similarity).read more = .ok result := by
      obtain ⟨next, moved, value, after, valued, back, later⟩ := exists_named padded success
      obtain ⟨similarity, -, same⟩ := exists_of_bind moved
      cases same
      have colon := later (variantColon draft similarity) rfl
      rcases (values _ valued).lexemes_append (back.stopsNumber stops) with
        ⟨head, others, cut, scalar⟩ | broken
      · obtain ⟨next, moved, later⟩ := exists_next cut colon
        cases head <;> cases moved
        have behind := later _ (scalar rfl)
        rw [read_spacing back] at behind
        exact ⟨similarity, behind⟩
      · obtain ⟨next, moved, -⟩ := exists_next broken colon
        cases moved
    rcases continued with ⟨-, rfl⟩ | ⟨more, others, rfl⟩
    · obtain ⟨similarity, behind⟩ := given (Json.stopsNumber_cons (by decide) rest) success
      rw [read_of_step (Json.lexemes_closeObject rest) rfl] at behind
      exact ⟨_, behind⟩
    · -- a similarity is the only member
      rw [List.append_assoc, List.cons_append] at success
      obtain ⟨similarity, behind⟩ := given (Json.stopsNumber_cons (by decide) _) success
      obtain ⟨next, moved, -⟩ := exists_next (Json.lexemes_comma _) behind
      cases moved

/-- Any value that may be read is read as a whole. -/
theorem exists_of_value (value : IsValue text) (stops : StopsNumber rest)
    (success : (awaiting draft key).read (text ++ rest) = .ok result) :
    ∃ settings, (draft.enter settings).read rest = .ok result := by
  have ofScalar (scalar : IsScalar text) :
      ∃ settings, (draft.enter settings).read rest = .ok result := by
    rcases scalar.lexemes_append stops with ⟨head, isScalar, cut⟩ | broken
    · obtain ⟨next, moved, later⟩ := exists_next cut success
      rcases Draft.value_cases moved with ⟨-, settings, rfl⟩ | ⟨rfl, -⟩ | ⟨rfl, -⟩
      · exact ⟨settings, later rest rfl⟩
      · cases isScalar
      · cases isScalar
    · obtain ⟨next, moved, -⟩ := exists_next broken success
      cases key <;> cases moved
  obtain ⟨depth, value⟩ := value
  cases depth with
  | zero => exact ofScalar value
  | succ depth =>
    have values : ∀ text, IsValueWithin depth text → IsValue text := fun _ value => ⟨depth, value⟩
    rcases value with scalar | ⟨count, array⟩ | ⟨names, object⟩
    · exact ofScalar scalar
    · obtain ⟨inner, rfl, content⟩ := array.exists_inner
      rw [List.cons_append, List.append_assoc, List.singleton_append] at success
      obtain ⟨next, moved, later⟩ := exists_next (Json.lexemes_openArray _) success
      have behind := later _ rfl
      rcases Draft.value_cases moved with ⟨scalar, -⟩ | ⟨-, rfl⟩ | ⟨same, -⟩
      · cases scalar
      · rcases content with ⟨-, spacing⟩ | series
        · rw [read_spacing spacing, read_of_step (Json.lexemes_closeArray rest) rfl] at behind
          exact ⟨_, behind⟩
        · exact exists_of_list .opened values series behind
      · cases same
    · obtain ⟨inner, rfl, content⟩ := object.exists_inner
      rw [List.cons_append, List.append_assoc, List.singleton_append] at success
      obtain ⟨next, moved, later⟩ := exists_next (Json.lexemes_openObject _) success
      have behind := later _ rfl
      rcases Draft.value_cases moved with ⟨scalar, -⟩ | ⟨same, -⟩ | ⟨-, rfl⟩
      · cases scalar
      · cases same
      · rcases content with ⟨-, spacing⟩ | series
        · rw [read_spacing spacing] at behind
          obtain ⟨next, moved, -⟩ := exists_next (Json.lexemes_closeObject rest) behind
          cases moved
        · exact exists_of_variant values series behind

/-- The names of the members that may be read are keys that are not given yet, each once. -/
theorem exists_keys (ready : Ready draft reading) (object : draft.form = .object)
    (series : Series (names.map fun name => Member name IsValue) inner)
    (success : reading.read (inner ++ '\x7d' :: rest) = .ok result) :
    ∃ keys : List Key, names = keys.map Key.name ∧ keys.Nodup ∧ ∀ key ∈ keys, key ∉ draft.given := by
  induction names generalizing draft reading inner with
  | nil => exact absurd rfl series.ne_nil
  | cons name names ih =>
    obtain ⟨first, padded, continued⟩ := series.exists_first
    have given {more : List Char} (stops : StopsNumber more)
        (success : reading.read (first ++ more) = .ok result) :
        ∃ key : Key, key.name = name ∧ key ∉ draft.given ∧
          ∃ settings, ((draft.give key).enter settings).read more = .ok result := by
      obtain ⟨next, moved, value, after, valued, back, later⟩ := exists_named padded success
      rw [ready.step_string object] at moved
      obtain ⟨key, same, fresh, rfl⟩ := Draft.key_cases moved
      obtain ⟨settings, behind⟩ :=
        exists_of_value valued (back.stopsNumber stops) (later (awaiting (draft.give key) key) rfl)
      rw [read_spacing back] at behind
      exact ⟨key, same, fresh, settings, behind⟩
    rcases continued with ⟨none, rfl⟩ | ⟨more, others, rfl⟩
    · obtain ⟨key, rfl, fresh, -⟩ := given (Json.stopsNumber_cons (by decide) rest) success
      refine ⟨[key], ?_, List.nodup_cons.mpr ⟨List.not_mem_nil, List.nodup_nil⟩, ?_⟩
      · rw [List.map_eq_nil_iff.mp none]
        rfl
      · intro other member
        rw [List.mem_singleton.mp member]
        exact fresh
    · rw [List.append_assoc, List.cons_append] at success
      obtain ⟨key, rfl, fresh, settings, behind⟩ :=
        given (Json.stopsNumber_cons (by decide) _) success
      have comma : ((draft.give key).enter settings).step .comma =
          .ok (Reading.continued { draft.give key with settings }) := by
        simp [step, Draft.enter, Draft.mayContinue, Draft.give, object]
      rw [read_of_step (Json.lexemes_comma _) comma] at behind
      have form : ({ draft.give key with settings } : Draft).form = .object := object
      obtain ⟨keys, rfl, distinct, later⟩ := ih .continued form others behind
      refine ⟨key :: keys, rfl, List.nodup_cons.mpr ⟨?_, distinct⟩, ?_⟩
      · intro member
        exact later key member (List.mem_append_right _ (List.mem_singleton.mpr rfl))
      · intro other member
        rcases List.mem_cons.mp member with rfl | behind
        · exact fresh
        · exact fun old => later other behind (List.mem_append_left _ old)

end Reading

/-- What is between the brackets decides. -/
theorem read_object {members : List (List Char → Prop)} {text : String}
    (object : IsObject members text) :
    ∃ inner after, Spacing after ∧ (members = [] ∧ Spacing inner ∨ Series members inner) ∧
      ofText text = (Reading.opened (.empty .object)).read (inner ++ '\x7d' :: after) := by
  obtain ⟨before, _, after, front, bracketed, back, whole⟩ := object
  obtain ⟨inner, rfl, content⟩ := bracketed.exists_inner
  refine ⟨inner, after, back, content, ?_⟩
  change Reading.start.read text.toList = _
  rw [whole, Reading.read_spacing front, List.cons_append, List.append_assoc,
    Reading.read_of_step (Json.lexemes_openObject _) rfl, List.singleton_append]

theorem Reading.read_finished {after : List Char} (spacing : Spacing after) (settings : Settings) :
    (finished settings).read after = .ok settings := by
  rw [← List.append_nil after, read_spacing spacing, read, Json.lexemes]
  rfl

theorem ofText_of_members {text : String} (word : settings.top < UInt64.size)
    (distinct : keys.Nodup) (others : ∀ key ∉ keys, standard.Agrees settings key)
    (object : IsObject (keys.map settings.WritesMember) text) : ofText text = .ok settings := by
  obtain ⟨inner, after, back, content, read⟩ := read_object object
  have all : keys.foldl settings.take standard = settings := foldl_take others
  rw [read]
  rcases content with ⟨none, spacing⟩ | series
  · rw [List.map_eq_nil_iff.mp none, List.foldl_nil] at all
    rw [Reading.read_spacing spacing, Reading.read_of_step (Json.lexemes_closeObject after) rfl, ← all]
    exact Reading.read_finished back standard
  · rw [Reading.read_members .opened rfl (fun _ _ => List.not_mem_nil) distinct word series]
    exact (Reading.read_finished back _).trans (congrArg Except.ok all)

/-- The names of the members are keys, each once. -/
theorem names_of_ofText {text : String}
    (object : IsObject (names.map fun name => Member name IsValue) text)
    (success : ofText text = .ok settings) :
    ∃ keys : List Key, names = keys.map Key.name ∧ keys.Nodup := by
  obtain ⟨inner, after, back, content, read⟩ := read_object object
  rcases content with ⟨none, -⟩ | series
  · exact ⟨[], List.map_eq_nil_iff.mp none, List.nodup_nil⟩
  · rw [read] at success
    obtain ⟨keys, same, distinct, -⟩ := Reading.exists_keys .opened rfl series success
    exact ⟨keys, same, distinct⟩

theorem WritesValue.isValue (writes : settings.WritesValue key text) : IsValue text := by
  obtain _ | _ | _ | flag := key
  · exact ⟨0, .string writes⟩
  · refine ⟨1, .inr (.inl ⟨settings.fields.length, Bracketed.mono ?_ writes⟩)⟩
    rw [← List.map_const', List.forall₂_map_left_iff, List.forall₂_map_right_iff, List.forall₂_same]
    exact fun _ _ _ writes => .string writes
  · rw [WritesValue] at writes
    subst writes
    exact ⟨0, .number (Json.writesNumber_toDigits settings.top)⟩
  · rw [WritesValue] at writes
    subst writes
    refine ⟨0, .word ?_⟩
    cases settings.flag flag <;> decide

theorem Key.mem_all (key : Key) : key ∈ all := by
  obtain _ | _ | _ | flag := key
  · decide
  · decide
  · decide
  · cases flag <;> decide

theorem Key.name_injective : Function.Injective Key.name := by
  intro key other same
  have known := ofName?_name key
  rw [same, ofName?_name] at known
  exact (Option.some.inj known).symm

/-- An object with some of the keys, each once and each with the value that settings have for it, is
read as these settings if they have the standard value for every other key; numbers of hits are
words. One more member whose name is no key, or one of the keys given, makes it an error wherever it
stands and whatever its value. -/
theorem ofText_object {settings : Settings} {keys : List Key} (word : settings.top < UInt64.size)
    (distinct : keys.Nodup) (others : ∀ key ∉ keys, standard.Agrees settings key) :
    (∀ text, IsObject (keys.map settings.WritesMember) text → ofText text = .ok settings) ∧
    ∀ earlier later name, earlier ++ later = keys →
      (name ∉ Key.all.map Key.name ∨ name ∈ keys.map Key.name) →
      ∀ text, IsObject (earlier.map settings.WritesMember ++
          Member name IsValue :: later.map settings.WritesMember) text →
        ∃ error, ofText text = .error error := by
  refine ⟨fun text object => ofText_of_members word distinct others object, ?_⟩
  rintro earlier later name rfl wrong text object
  cases read : ofText text with
  | error error => exact ⟨error, rfl⟩
  | ok result =>
    have wide (keys : List Key) : List.Forall₂ (fun form wider => ∀ text, form text → wider text)
        (keys.map settings.WritesMember)
        ((keys.map Key.name).map fun name => Member name IsValue) := by
      rw [List.map_map, List.forall₂_map_left_iff, List.forall₂_map_right_iff, List.forall₂_same]
      exact fun key _ text member => member.mono fun _ writes => WritesValue.isValue writes
    have any : IsObject ((earlier.map Key.name ++ name :: later.map Key.name).map
        fun name => Member name IsValue) text := by
      apply object.mono
      intro text bracketed
      apply bracketed.mono
      rw [List.map_append, List.map_cons]
      exact List.rel_append (wide earlier) (.cons (fun _ => id) (wide later))
    obtain ⟨given, same, once⟩ := names_of_ofText any read
    have names : (earlier.map Key.name ++ name :: later.map Key.name).Nodup := by
      rw [same]
      exact once.map Key.name_injective
    obtain ⟨single, -⟩ := List.nodup_cons.mp (List.nodup_middle.mp names)
    have member : name ∈ given.map Key.name := by
      rw [← same]
      exact List.mem_append_right _ List.mem_cons_self
    rcases wrong with unknown | known
    · obtain ⟨key, -, rfl⟩ := List.mem_map.mp member
      exact absurd (List.mem_map_of_mem (Key.mem_all key)) unknown
    · rw [List.map_append] at known
      exact absurd known single

theorem ofText_escaped_object :
    ofText "\x7b\"top\" : 7,\n\"fi\\u0065lds\":[\"a \\\"b\\\"\"]\x7d" =
        .ok { standard with fields := ["a \"b\""], top := 7 } ∧
      ∃ error, ofText "\x7b\"top\" : 7,\"top\":null,\n\"fi\\u0065lds\":[\"a \\\"b\\\"\"]\x7d" =
        .error error := by
  let settings : Settings := { standard with fields := ["a \"b\""], top := 7 }
  have topName : WritesString "top" "\"top\"".toList := Json.writesString_plain (by decide)
  have seven : settings.WritesValue .top ['7'] := show ['7'] = Nat.toDigits 10 7 by decide
  have top : Padded (settings.WritesMember .top) "\"top\" : 7".toList :=
    ⟨[], "\"top\" : 7".toList, [], by decide,
      ⟨"\"top\"".toList, [' '], [' '], ['7'], topName, by decide, by decide,
        seven, rfl⟩, by decide, rfl⟩
  have again : Padded (Member "top" IsValue) "\"top\":null".toList :=
    ⟨[], "\"top\":null".toList, [], by decide,
      ⟨"\"top\"".toList, [], [], "null".toList, topName, by decide, by decide,
        ⟨0, .word (by decide)⟩, rfl⟩, by decide, rfl⟩
  have fieldsName : WritesString "fields" "\"fi\\u0065lds\"".toList :=
    ⟨[['f'], ['i'], "\\u0065".toList, ['l'], ['d'], ['s']],
      .cons (.plain rfl) (.cons (.plain rfl) (.cons (.unit ⟨rfl, rfl, rfl⟩)
        (.cons (.plain rfl) (.cons (.plain rfl)
          (.cons (.plain rfl) .nil))))), rfl⟩
  have field : WritesString "a \"b\"" "\"a \\\"b\\\"\"".toList :=
    ⟨[['a'], [' '], ['\\', '"'], ['b'], ['\\', '"']],
      .cons (.plain rfl) (.cons (.plain rfl) (.cons (.short (by decide))
        (.cons (.plain rfl) (.cons (.short (by decide)) .nil)))), rfl⟩
  have fields : Padded (settings.WritesMember .fields)
      "\n\"fi\\u0065lds\":[\"a \\\"b\\\"\"]".toList :=
    ⟨['\n'], "\"fi\\u0065lds\":[\"a \\\"b\\\"\"]".toList, [], by decide,
      ⟨"\"fi\\u0065lds\"".toList, [], [], "[\"a \\\"b\\\"\"]".toList, fieldsName, by decide, by decide,
        .series (.single ⟨[], _, [], by decide, field, by decide, rfl⟩), rfl⟩, by decide, rfl⟩
  have distinct : [Key.top, Key.fields].Nodup := by decide
  have others : ∀ key ∉ [Key.top, Key.fields], standard.Agrees settings key := by
    intro key absent
    obtain _ | _ | _ | flag := key
    · rfl
    · exact absurd (by decide) absent
    · exact absurd (by decide) absent
    · cases flag <;> rfl
  obtain ⟨reads, rejects⟩ := ofText_object (by decide : settings.top < UInt64.size) distinct others
  refine ⟨reads _ ⟨[], _, [], by decide, .series (.cons top (.single fields)), by decide, rfl⟩, ?_⟩
  exact rejects [.top] [.fields] "top" rfl (.inr (by decide)) _
    ⟨[], _, [], by decide, .series (.cons top (.cons again (.single fields))), by decide, rfl⟩

end Relevance.Settings
