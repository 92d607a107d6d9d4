import Relevance.Proofs.Json.Lexing
import Relevance.Settings.Written

set_option autoImplicit false

namespace Relevance.Settings

open Json (Spacing WritesString Padded Series Bracketed Member IsValue StopsNumber)

variable {settings source : Settings} {key other : Key} {keys : List Key}

def flag (settings : Settings) : Flag → Bool
  | .titleNorms => settings.titleNorms
  | .contentNorms => settings.contentNorms
  | .stopWords => settings.stopWords
  | .explain => settings.explain

def Agrees (settings source : Settings) : Key → Prop
  | .similarity => settings.similarity = source.similarity
  | .fields => settings.fields = source.fields
  | .top => settings.top = source.top
  | .flag flag => settings.flag flag = source.flag flag

theorem eq_of_agrees (all : ∀ key, settings.Agrees source key) : settings = source := by
  have similarity : settings.similarity = source.similarity := all .similarity
  have fields : settings.fields = source.fields := all .fields
  have top : settings.top = source.top := all .top
  have titleNorms : settings.titleNorms = source.titleNorms := all (.flag .titleNorms)
  have contentNorms : settings.contentNorms = source.contentNorms := all (.flag .contentNorms)
  have stopWords : settings.stopWords = source.stopWords := all (.flag .stopWords)
  have explain : settings.explain = source.explain := all (.flag .explain)
  cases settings
  cases source
  simp_all only

/-- The settings with the value of one key taken from others. -/
def take (source settings : Settings) : Key → Settings
  | .similarity => { settings with similarity := source.similarity }
  | .fields => { settings with fields := source.fields }
  | .top => { settings with top := source.top }
  | .flag flag => settings.setFlag flag (source.flag flag)

theorem take_agrees (source settings : Settings) (key : Key) :
    (source.take settings key).Agrees source key := by
  obtain _ | _ | _ | flag := key
  · rfl
  · rfl
  · rfl
  · cases flag <;> rfl

/-- Taking one value leaves the others alone. -/
theorem Agrees.take (agrees : settings.Agrees source other) (key : Key) :
    (source.take settings key).Agrees source other := by
  by_cases same : other = key
  · rw [same]
    exact take_agrees source settings key
  · obtain _ | _ | _ | flag := key
    · cases other <;> first | exact absurd rfl same | exact agrees
    · cases other <;> first | exact absurd rfl same | exact agrees
    · cases other <;> first | exact absurd rfl same | exact agrees
    · obtain _ | _ | _ | flag' := other
      · cases flag <;> exact agrees
      · cases flag <;> exact agrees
      · cases flag <;> exact agrees
      · cases flag <;> cases flag' <;> first | exact absurd rfl same | exact agrees

theorem foldl_take_agrees (given : other ∈ keys ∨ settings.Agrees source other) :
    (keys.foldl source.take settings).Agrees source other := by
  induction keys generalizing settings with
  | nil => exact given.resolve_left List.not_mem_nil
  | cons key keys ih =>
    apply ih
    rcases given with member | agrees
    · rcases List.mem_cons.mp member with rfl | later
      · exact .inr (take_agrees source settings other)
      · exact .inl later
    · exact .inr (agrees.take key)

/-- All values are taken if the values of the keys are that differ. -/
theorem foldl_take (others : ∀ key ∉ keys, settings.Agrees source key) :
    keys.foldl source.take settings = source := by
  apply eq_of_agrees
  intro key
  apply foldl_take_agrees
  by_cases member : key ∈ keys
  · exact .inl member
  · exact .inr (others key member)

def WritesValue (settings : Settings) : Key → List Char → Prop
  | .similarity, text => WritesString settings.similarity.keyword text
  | .fields, text => Bracketed '[' ']' (settings.fields.map WritesString) text
  | .top, text => text = Nat.toDigits 10 settings.top
  | .flag flag, text => text = (if settings.flag flag then "true" else "false").toList

def WritesMember (settings : Settings) (key : Key) : List Char → Prop :=
  Member key.name (settings.WritesValue key)

def IsObject (members : List (List Char → Prop)) (text : String) : Prop :=
  Padded (Bracketed '\x7b' '\x7d' members) text.toList

namespace Reading

variable {reading next : Reading} {draft : Draft} {text rest inner : List Char} {result : Settings}

def read (reading : Reading) (text : List Char) : Except WrittenError Settings := do
  (← (Json.lexemes text).foldlM step reading).finish

theorem read_of_step {lexeme : Json.Lexeme}
    (cut : Json.lexemes text = lexeme :: Json.lexemes rest) (moved : reading.step lexeme = .ok next) :
    reading.read text = next.read rest := by
  rw [read, cut, List.foldlM_cons, moved]
  rfl

theorem read_spacing {spaces : List Char} (spacing : Spacing spaces) (reading : Reading)
    (rest : List Char) : reading.read (spaces ++ rest) = reading.read rest := by
  rw [read, spacing.lexemes_append]
  rfl

/-- Where a field may stand behind those before it. -/
inductive ListReady (draft : Draft) : List String → Reading → Prop
  | opened : ListReady draft [] (.listOpened draft)
  | continued (fields : List String) : ListReady draft fields (.listContinued draft fields)

theorem ListReady.step_string {fields : List String} (ready : ListReady draft fields reading)
    (name : String) :
    reading.step (.head (.string name)) = .ok (.listed draft (fields ++ [name])) := by
  cases ready <;> rfl

theorem read_fields {fields names : List String} (ready : ListReady draft fields reading)
    (series : Series (names.map WritesString) inner) (rest : List Char) :
    reading.read (inner ++ ']' :: rest) =
      (draft.enter { draft.settings with fields := fields ++ names }).read rest := by
  induction names generalizing fields reading inner with
  | nil => exact absurd rfl series.ne_nil
  | cons name names ih =>
    obtain ⟨first, ⟨before, written, after, front, writes, back, rfl⟩, continued⟩ :=
      series.exists_first
    have named (rest : List Char) : reading.read (before ++ (written ++ after) ++ rest) =
        (Reading.listed draft (fields ++ [name])).read rest := by
      rw [List.append_assoc, read_spacing front, List.append_assoc,
        read_of_step (writes.lexemes_append _) (ready.step_string name), read_spacing back]
    rcases continued with ⟨none, rfl⟩ | ⟨more, others, rfl⟩
    · rw [named, List.map_eq_nil_iff.mp none]
      exact read_of_step (Json.lexemes_closeArray rest) rfl
    · rw [List.append_assoc, named, List.cons_append, read_of_step (Json.lexemes_comma _) rfl,
        ih (.continued _) others, List.append_assoc, List.singleton_append]

/-- The value of a key is read as it is written. -/
theorem read_value (word : settings.top < UInt64.size) (writes : settings.WritesValue key text)
    (stops : StopsNumber rest) (draft : Draft) :
    (awaiting draft key).read (text ++ rest) =
      (draft.enter (settings.take draft.settings key)).read rest := by
  obtain _ | _ | _ | flag := key
  · apply read_of_step (WritesString.lexemes_append writes rest)
    simp only [step, Draft.value, Draft.similarity, Similarity.ofKeyword?_keyword]
    rfl
  · obtain ⟨inner, rfl, ⟨none, spacing⟩ | series⟩ := Bracketed.exists_inner writes
    · rw [List.cons_append, List.append_assoc, read_of_step (Json.lexemes_openArray _) rfl,
        read_spacing spacing, List.singleton_append]
      rw [show settings.take draft.settings .fields = { draft.settings with fields := [] } by
        rw [take, List.map_eq_nil_iff.mp none]]
      exact read_of_step (Json.lexemes_closeArray rest) rfl
    · rw [List.cons_append, List.append_assoc, read_of_step (Json.lexemes_openArray _) rfl]
      exact read_fields .opened series rest
  · rw [WritesValue] at writes
    subst writes
    exact read_of_step (Json.lexemes_toDigits word stops) rfl
  · rw [WritesValue] at writes
    subst writes
    rw [take]
    cases settings.flag flag with
    | true => exact read_of_step (Json.lexemes_true rest) rfl
    | false => exact read_of_step (Json.lexemes_false rest) rfl

/-- Where a member of an object may stand. -/
inductive Ready (draft : Draft) : Reading → Prop
  | opened : Ready draft (.opened draft)
  | continued : Ready draft (.continued draft)

theorem Ready.step_string (ready : Ready draft reading) (object : draft.form = .object)
    (name : String) :
    reading.step (.head (.string name)) = draft.key (.head (.string name)) := by
  cases ready <;> simp [step, Form.closes, Draft.entry, object]

end Reading

/-- The draft with one more key given, and its value. -/
def Draft.take (source : Settings) (draft : Draft) (key : Key) : Draft :=
  { draft.give key with settings := source.take draft.settings key }

namespace Reading

variable {reading : Reading} {draft : Draft} {text rest inner : List Char}

theorem read_member (ready : Ready draft reading) (object : draft.form = .object)
    (fresh : key ∉ draft.given) (word : settings.top < UInt64.size)
    (member : settings.WritesMember key text) (stops : StopsNumber rest) :
    reading.read (text ++ rest) = (valued (draft.take settings key)).read rest := by
  obtain ⟨written, before, after, value, named, front, back, writes, rfl⟩ := member
  have keyed : reading.step (.head (.string key.name)) = .ok (keyed (draft.give key) key) := by
    rw [ready.step_string object]
    simp only [Draft.key, Key.ofName?_name, fresh, if_false]
  rw [List.append_assoc, read_of_step (named.lexemes_append _) keyed, List.append_assoc,
    read_spacing front, List.cons_append, read_of_step (Json.lexemes_colon _) rfl,
    List.append_assoc, read_spacing back]
  exact read_value word writes stops (draft.give key)

theorem read_members (ready : Ready draft reading) (object : draft.form = .object)
    (fresh : ∀ key ∈ keys, key ∉ draft.given) (distinct : keys.Nodup)
    (word : settings.top < UInt64.size) (series : Series (keys.map settings.WritesMember) inner)
    (rest : List Char) :
    reading.read (inner ++ '\x7d' :: rest) =
      (finished (keys.foldl settings.take draft.settings)).read rest := by
  induction keys generalizing draft reading inner with
  | nil => exact absurd rfl series.ne_nil
  | cons key keys ih =>
    obtain ⟨first, ⟨before, written, after, front, member, back, rfl⟩, continued⟩ :=
      series.exists_first
    have taken {rest : List Char} (stops : StopsNumber rest) :
        reading.read (before ++ (written ++ after) ++ rest) =
          (valued (draft.take settings key)).read rest := by
      rw [List.append_assoc, read_spacing front, List.append_assoc,
        read_member ready object (fresh key List.mem_cons_self) word member (back.stopsNumber stops),
        read_spacing back]
    rcases continued with ⟨none, rfl⟩ | ⟨more, others, rfl⟩
    · rw [taken (Json.stopsNumber_cons (by decide) rest), List.map_eq_nil_iff.mp none]
      apply read_of_step (Json.lexemes_closeObject rest)
      simp [step, Form.closes, Draft.take, Draft.give, object]
    · obtain ⟨absent, distinct⟩ := List.nodup_cons.mp distinct
      have later : ∀ other ∈ keys, other ∉ (draft.take settings key).given := by
        intro other member given
        rcases List.mem_append.mp given with old | same
        · exact fresh other (List.mem_cons_of_mem _ member) old
        · rw [List.mem_singleton.mp same] at member
          exact absent member
      have comma : (valued (draft.take settings key)).step .comma =
          .ok (Reading.continued (draft.take settings key)) := by
        simp [step, Draft.mayContinue, Draft.take, Draft.give, object]
      rw [List.append_assoc, List.cons_append, taken (Json.stopsNumber_cons (by decide) _),
        read_of_step (Json.lexemes_comma _) comma]
      exact ih .continued object later distinct others

end Reading

end Relevance.Settings
