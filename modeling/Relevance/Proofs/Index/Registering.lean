import Relevance.Proofs.Index.Keyed
import Relevance.Proofs.Index.Known
import Relevance.Proofs.Index.Norms

set_option autoImplicit false

namespace Relevance

namespace Schema

variable {schema next : Schema} {name : String} {id : FieldId} {field : Field}

/-- As long as no number is given out twice, it is the place of its field. -/
theorem toNat_of_place (room : schema.fields.length ≤ UInt32.size) {place : Nat}
    (present : schema.fields[place]? = some field) : (UInt32.ofNat place).toNat = place := by
  obtain ⟨inside, -⟩ := List.getElem?_eq_some_iff.mp present
  exact UInt32.toNat_ofNat_of_lt' (Nat.lt_of_lt_of_le inside room)

/-- No two fields have the same name. -/
theorem eq_of_name_eq {other : FieldId} {second : Field} (first : schema.get? id = some field)
    (latter : schema.get? other = some second) (same : field.name = second.name) : id = other := by
  obtain ⟨inside, -⟩ := List.getElem?_eq_some_iff.mp first
  have named : (schema.fields.map Field.name)[id.toNat]? =
      (schema.fields.map Field.name)[other.toNat]? := by
    rw [List.getElem?_map, List.getElem?_map, show schema.fields[id.toNat]? = some field from first,
      show schema.fields[other.toNat]? = some second from latter, Option.map_some, Option.map_some,
      same]
  exact UInt32.toNat_inj.mp
    ((List.getElem?_inj (by rwa [List.length_map]) schema.names_nodup).mp named)

/-- A name finds the number that has a field of that name. -/
theorem find?_eq_some_iff (room : schema.fields.length ≤ UInt32.size) :
    schema.find? name = some id ↔ ∃ field, schema.get? id = some field ∧ field.name = name := by
  have forward {id : FieldId} (found : schema.find? name = some id) :
      ∃ field, schema.get? id = some field ∧ field.name = name := by
    obtain ⟨place, stands, rfl⟩ := Option.map_eq_some_iff.mp found
    obtain ⟨inside, named, -⟩ := List.findIdx?_eq_some_iff_getElem.mp stands
    refine ⟨_, ?_, of_decide_eq_true named⟩
    rw [get?, toNat_of_place room (List.getElem?_eq_getElem inside)]
    exact List.getElem?_eq_getElem inside
  constructor
  · exact forward
  · rintro ⟨field, present, named⟩
    cases found : schema.find? name with
    | some other =>
      obtain ⟨second, there, same⟩ := forward found
      rw [eq_of_name_eq present there (named.trans same.symm)]
    | none =>
      have without := List.findIdx?_eq_none_iff.mp (Option.map_eq_none_iff.mp found)
      have differs := without field (List.mem_of_getElem? present)
      rw [named, decide_eq_true rfl] at differs
      cases differs

theorem isSome_find?_iff : (schema.find? name).isSome ↔ name ∈ schema.fields.map Field.name := by
  rw [find?, Option.isSome_map, List.findIdx?_isSome, List.any_eq_true, List.mem_map]
  simp only [decide_eq_true_eq]

/-- A name that is taken is refused. -/
theorem add_of_taken (taken : (schema.find? field.name).isSome) :
    schema.add field = .error (.fieldExists field.name) :=
  dif_pos (isSome_find?_iff.mp taken)

/-- A name that is free is granted the next number. -/
theorem exists_add_of_free (free : schema.find? field.name = none) :
    ∃ next, schema.add field = .ok (next, schema.nextId) := by
  have absent : field.name ∉ schema.fields.map Field.name := by
    rw [← isSome_find?_iff, free]
    exact nofun
  exact ⟨_, dif_neg absent⟩

/-- A field reads as before once others are registered. -/
theorem get?_of_append {added : Field} (appended : next.fields = schema.fields ++ [added])
    (present : schema.get? id = some field) : next.get? id = some field := by
  obtain ⟨inside, -⟩ := List.getElem?_eq_some_iff.mp present
  rw [get?, appended, List.getElem?_append_left inside]
  exact present

/-- A field that is registered before all numbers are given out reads under the one it gets. -/
theorem get?_nextId (room : next.fields.length ≤ UInt32.size)
    (appended : next.fields = schema.fields ++ [field]) :
    next.get? schema.nextId = some field := by
  rw [appended, List.length_append, List.length_singleton] at room
  rw [get?, toNat_nextId room, appended, List.getElem?_concat_length]

theorem hasNorms_iff_get? (room : schema.fields.length ≤ UInt32.size) : schema.hasNorms id = true ↔
    ∃ field, schema.get? id = some field ∧ field.flags.norms = true := by
  rw [hasNorms_iff]
  constructor
  · rintro ⟨place, field, present, rfl, flagged⟩
    refine ⟨field, ?_, flagged⟩
    rw [get?, toNat_of_place room present]
    exact present
  · rintro ⟨field, present, flagged⟩
    exact ⟨id.toNat, field, present, UInt32.ofNat_toNat.symm, flagged⟩

end Schema

namespace FieldIndex

variable {field next : FieldIndex} {doc : DocId}

theorem isSome_norms_withTable (field : FieldIndex) (norms : Bool) :
    (field.withTable norms).norms.isSome = (field.norms.isSome || norms) := by
  cases norms
  · exact (Bool.or_false _).symm
  · exact (Bool.or_true _).symm

/-- Adding a document neither makes nor drops a table of norms. -/
theorem isSome_norms_of_add {tokens : List Token} {groups : List TermPositions}
    (success : field.add doc tokens groups = .ok next) :
    next.norms.isSome = field.norms.isSome := by
  obtain ⟨-, -, -, rfl⟩ := add_eq_ok_iff.mp success
  exact Option.isSome_map

/-- Nor does removing one. -/
theorem isSome_norms_of_remove (success : field.remove doc = .ok next) :
    next.norms.isSome = field.norms.isSome := by
  cases present : field.positions[doc]? with
  | none =>
    rw [remove_of_absent present] at success
    cases success
    rfl
  | some groups =>
    obtain ⟨-, -, -, rfl⟩ := (remove_eq_ok_iff present).mp success
    exact Option.isSome_map

end FieldIndex

namespace Index

variable {index next : Index} {field : Field} {id : FieldId}

/-- The fields with a table of norms are those whose length counts. -/
def Tabled (index : Index) : Prop :=
  ∀ (id : FieldId) (kept : FieldIndex), index.fields[id]? = some kept →
    kept.norms.isSome = index.schema.hasNorms id

theorem tabled_empty (similarity : Similarity) : (empty similarity).Tabled := by
  intro id kept present
  simp [empty] at present

theorem Tabled.addField (tabled : index.Tabled) (sound : index.Sound)
    (success : index.addField field = .ok (next, id)) : next.Tabled := by
  intro other kept present
  obtain ⟨schema, appended, new, same⟩ := addField_eq_ok success
  have registers : next.schema = schema := by rw [same]
  rw [registers, Schema.hasNorms_append appended]
  rcases getElem?_addField success present with ⟨rfl, before, found, rfl⟩ | ⟨differs, old⟩
  · have earlier : before.norms.isSome = index.schema.hasNorms other := by
      rcases found with old | ⟨absent, rfl⟩
      · exact tabled other before old
      · have outside : ¬ other.toNat < index.schema.fields.length := by
          rw [← sound.registered_iff, absent]
          exact nofun
        exact (Schema.hasNorms_of_le (Nat.le_of_not_lt outside)).symm
    rw [FieldIndex.isSome_norms_withTable, earlier, decide_eq_true new, Bool.true_and]
  · rw [decide_eq_false (new ▸ differs), Bool.false_and, Bool.or_false]
    exact tabled other kept old

theorem Tabled.erase {key : String} {removed : Bool} (tabled : index.Tabled)
    (success : index.erase key = .ok (next, removed)) : next.Tabled := by
  rcases Index.erase_eq_ok success with ⟨-, rfl, -⟩ | ⟨doc, after, -, -, rfl, fields⟩
  · exact tabled
  intro other left present
  obtain ⟨kept, before, ⟨rfl, -⟩ | changed⟩ := fields.of_present other left present
  · exact tabled other left before
  · rw [FieldIndex.isSome_norms_of_remove changed]
    exact tabled other kept before

theorem Tabled.insert {document : Document} {doc : DocId} (tabled : index.Tabled)
    (success : index.insert document = .ok (next, doc)) : next.Tabled := by
  obtain ⟨cleared, removed, after, erased, -, -, rfl, fields⟩ := Index.insert_eq_ok success
  have clean : cleared.Tabled := tabled.erase erased
  intro other grown present
  obtain ⟨kept, before, ⟨rfl, -⟩ | ⟨tokens, -, -, changed⟩⟩ := fields.of_present other grown present
  · exact clean other grown before
  · rw [FieldIndex.isSome_norms_of_add changed]
    exact clean other kept before

theorem tabled_of_run {similarity : Similarity} {operations : List Operation}
    (reached : run similarity operations = .ok index) : index.Tabled := by
  refine run_induction (motive := fun _ index => index.Tabled) (tabled_empty similarity) ?_ reached
  intro operations before operation next earlier tabled performed
  cases operation with
  | addField field =>
    rcases perform_addField performed with ⟨id, registered⟩ | rfl
    · exact tabled.addField (sound_of_run earlier) registered
    · exact tabled
  | insert document =>
    obtain ⟨⟨_, doc⟩, inserted, rfl⟩ := Fault.map_eq_ok_iff.mp performed
    exact tabled.insert inserted
  | erase key =>
    obtain ⟨⟨_, removed⟩, erased, rfl⟩ := Fault.map_eq_ok_iff.mp performed
    exact tabled.erase erased

/-- A number has a table of norms if it was given to a field whose length counts. -/
theorem Tabled.isSome_norms (tabled : index.Tabled) (sound : index.Sound) (id : FieldId) :
    (index.norms? id).isSome = index.schema.hasNorms id := by
  rw [norms?]
  cases present : index.fields[id]? with
  | some kept => rw [Option.bind_some, tabled id kept present]
  | none =>
    have outside : ¬ id.toNat < index.schema.fields.length := by
      rw [← sound.registered_iff, present]
      exact nofun
    exact (Schema.hasNorms_of_le (Nat.le_of_not_lt outside)).symm

def Reply.granted? : Reply → Option FieldId
  | .registered (.ok id) => some id
  | _ => none

/-- A name that is taken is refused, and the index stays as it is. -/
theorem respond_of_taken (taken : (index.schema.find? field.name).isSome) :
    index.respond (.addField field) =
      .ok (index, .registered (.error (.fieldExists field.name))) := by
  simp only [respond, addField, Schema.add_of_taken taken]
  rfl

/-- A name that is free is granted the next number. -/
theorem exists_respond_of_free (free : index.schema.find? field.name = none) :
    ∃ next, index.respond (.addField field) =
      .ok (next, .registered (.ok index.schema.nextId)) := by
  obtain ⟨schema, registered⟩ := Schema.exists_add_of_free free
  simp only [respond, addField, registered]
  exact ⟨_, rfl⟩

/-- A registration that is granted puts its field at the end of the schema. No other step changes
the schema. -/
theorem schema_of_respond {operation : Operation} {reply : Reply}
    (success : index.respond operation = .ok (next, reply)) :
    (∃ field, operation = .addField field ∧
        reply = .registered (.ok index.schema.nextId) ∧
        next.schema.fields = index.schema.fields ++ [field]) ∨
      reply.granted? = none ∧ next.schema = index.schema := by
  have performed : index.perform operation = .ok next := by
    rw [perform_eq_respond, success, Fault.map_ok]
  cases operation with
  | addField field =>
    simp only [respond] at success
    split at success
    · rename_i registered
      cases success
      obtain ⟨schema, appended, rfl, rfl⟩ := addField_eq_ok registered
      exact Or.inl ⟨field, rfl, rfl, appended⟩
    · cases success
      exact Or.inr ⟨rfl, rfl⟩
  | insert document =>
    obtain ⟨⟨_, doc⟩, -, same⟩ := Fault.bind_eq_ok_iff.mp success
    cases same
    exact Or.inr ⟨rfl, schema_perform performed⟩
  | erase key =>
    obtain ⟨⟨_, found⟩, -, same⟩ := Fault.bind_eq_ok_iff.mp success
    cases same
    exact Or.inr ⟨rfl, schema_perform performed⟩

theorem get?_of_respond {operation : Operation} {reply : Reply}
    (success : index.respond operation = .ok (next, reply))
    (present : index.schema.get? id = some field) : next.schema.get? id = some field := by
  rcases schema_of_respond success with ⟨_, -, -, appended⟩ | ⟨-, same⟩
  · exact Schema.get?_of_append appended present
  · rw [same]
    exact present

variable {similarity : Similarity} {operations : List Operation} {replies : List Reply}

/-- Numbers are granted in order. -/
theorem granted_of_transcript (reached : transcript similarity operations = .ok (index, replies)) :
    replies.filterMap Reply.granted? =
      (List.range index.schema.fields.length).map UInt32.ofNat := by
  induction operations using List.reverseRecOn generalizing index replies with
  | nil =>
    cases reached
    rfl
  | append_singleton operations operation ih =>
    obtain ⟨before, earlier, reply, start, responded, rfl⟩ := transcript_append_eq_ok reached
    rw [List.filterMap_append, ih start]
    rcases schema_of_respond responded with ⟨field, -, rfl, appended⟩ | ⟨none, same⟩
    · rw [appended, List.length_append, List.length_singleton, List.range_succ, List.map_append]
      rfl
    · rw [same, List.filterMap_cons, none]
      exact List.append_nil _

/-- Each number reads as the field that it was granted to, as long as there are enough of them. -/
theorem reads_of_transcript (reached : transcript similarity operations = .ok (index, replies))
    (room : index.schema.fields.length ≤ UInt32.size) (i : Nat) (field : Field) (id : FieldId)
    (asked : operations[i]? = some (.addField field))
    (answered : replies[i]? = some (.registered (.ok id))) : index.schema.get? id = some field := by
  induction operations using List.reverseRecOn generalizing index replies with
  | nil => cases asked
  | append_singleton operations operation ih =>
    obtain ⟨before, earlier, reply, start, responded, rfl⟩ := transcript_append_eq_ok reached
    obtain ⟨-, -, -, size, -⟩ := transcript_spec start
    have fewer : before.schema.fields.length ≤ UInt32.size := by
      rcases schema_of_respond responded with ⟨_, -, -, appended⟩ | ⟨-, same⟩
      · rw [appended, List.length_append] at room
        exact Nat.le_of_add_right_le room
      · rwa [same] at room
    rcases Nat.lt_trichotomy i operations.length with old | rfl | beyond
    · rw [List.getElem?_append_left old] at asked
      rw [List.getElem?_append_left (size ▸ old)] at answered
      exact get?_of_respond responded (ih start fewer asked answered)
    · rw [List.getElem?_concat_length] at asked
      rw [← size, List.getElem?_concat_length] at answered
      cases asked
      cases answered
      rcases schema_of_respond responded with ⟨_, same, number, appended⟩ | ⟨refused, -⟩
      · cases same
        cases number
        exact Schema.get?_nextId room appended
      · cases refused
    · rw [List.getElem?_eq_none (by simp only [List.length_append, List.length_singleton]; omega)]
        at asked
      cases asked

/-- A field reads as before after any further steps. -/
theorem get?_of_later (reached : transcript similarity operations = .ok (index, replies))
    (present : index.schema.get? id = some field) {later : List Operation} {more : List Reply}
    (further : transcript similarity (operations ++ later) = .ok (next, more)) :
    next.schema.get? id = some field := by
  induction later using List.reverseRecOn generalizing next more with
  | nil =>
    rw [List.append_nil, reached] at further
    cases further
    exact present
  | append_singleton later operation ih =>
    rw [← List.append_assoc] at further
    obtain ⟨before, earlier, reply, start, responded, -⟩ := transcript_append_eq_ok further
    exact get?_of_respond responded (ih start)

/-- A registration that is refused can be left out of any sequence of operations. -/
theorem run_eq_of_taken (reached : run similarity operations = .ok index)
    (taken : (index.schema.find? field.name).isSome) (later : List Operation) :
    run similarity (operations ++ .addField field :: later) =
      run similarity (operations ++ later) := by
  have refused : index.perform (.addField field) = .ok index := by
    rw [perform_eq_respond, respond_of_taken taken, Fault.map_ok]
  rw [run] at reached
  rw [run, run, List.foldlM_append, List.foldlM_append, reached, Fault.ok_bind, Fault.ok_bind,
    List.foldlM_cons, refused, Fault.ok_bind]

/-- An index with all its answers keeps a register of its fields. -/
structure KeepsRegister (similarity : Similarity) (operations : List Operation) (index : Index)
    (replies : List Reply) : Prop where
  /-- Numbers are granted in order from zero on, one for each field of the schema. -/
  granted_eq : (replies.filterMap Reply.granted?).map UInt32.toNat =
    List.range index.schema.fields.length
  /-- The field that was granted a number is the one read under it. -/
  reads : ∀ (i : Nat) (field : Field) (id : FieldId), operations[i]? = some (.addField field) →
    replies[i]? = some (.registered (.ok id)) → index.schema.get? id = some field
  find_iff : ∀ (name : String) (id : FieldId), index.schema.find? name = some id ↔
    ∃ field, index.schema.get? id = some field ∧ field.name = name
  names_distinct : ∀ (id other : FieldId) (field second : Field),
    index.schema.get? id = some field → index.schema.get? other = some second →
    field.name = second.name → id = other
  /-- What is read under a number never changes. -/
  stays : ∀ (later : List Operation) (next : Index) (more : List Reply),
    transcript similarity (operations ++ later) = .ok (next, more) →
    ∀ (id : FieldId) (field : Field), index.schema.get? id = some field →
      next.schema.get? id = some field
  norms_iff : ∀ id : FieldId, (index.norms? id).isSome ↔
    ∃ field, index.schema.get? id = some field ∧ field.flags.norms = true
  /-- A name that is free is granted the next number. -/
  grants : ∀ field : Field, index.schema.find? field.name = none →
    ∃ next, index.respond (.addField field) =
      .ok (next, .registered (.ok index.schema.nextId))
  /-- A name that is taken is refused and changes nothing. -/
  refuses : ∀ field : Field, (index.schema.find? field.name).isSome →
    index.respond (.addField field) =
      .ok (index, .registered (.error (.fieldExists field.name)))
  /-- A refused registration makes no difference to whatever comes after it. -/
  forgets : ∀ (field : Field) (later : List Operation), (index.schema.find? field.name).isSome →
    run similarity (operations ++ .addField field :: later) = run similarity (operations ++ later)

/-- Along every sequence of operations that registers at most `2 ^ 32` fields, an index keeps a
register of them. Only the counters set an end to it. -/
theorem transcript_keepsRegister (similarity : Similarity) {operations : List Operation}
    (room : (operations.foldl Schema.after .empty).fields.length ≤ UInt32.size) :
    match transcript similarity operations with
    | .ok (index, replies) => KeepsRegister similarity operations index replies
    | .error reason => reason = .additionOverflow ∧ UInt64.size ≤ load operations := by
  cases reached : transcript similarity operations with
  | error reason =>
    exact run_eq_error (by rw [run_eq_transcript, reached]; rfl)
  | ok result =>
    obtain ⟨index, replies⟩ := result
    have ran : run similarity operations = .ok index := by
      rw [run_eq_transcript, reached, Fault.map_ok]
    rw [← schema_of_run ran] at room
    have numbers : (List.range index.schema.fields.length).map
        (UInt32.toNat ∘ UInt32.ofNat) = List.range index.schema.fields.length := by
      rw [List.map_congr_left (g := id), List.map_id]
      intro place inside
      exact UInt32.toNat_ofNat_of_lt' (Nat.lt_of_lt_of_le (List.mem_range.mp inside) room)
    exact {
      granted_eq := by rw [granted_of_transcript reached, List.map_map, numbers]
      reads := reads_of_transcript reached room
      find_iff := fun name id => Schema.find?_eq_some_iff room
      names_distinct := fun id other field second => Schema.eq_of_name_eq
      stays := fun later next more further id field present => get?_of_later reached present further
      norms_iff := fun id => by
        rw [(tabled_of_run ran).isSome_norms (sound_of_run ran), Schema.hasNorms_iff_get? room]
      grants := fun field => exists_respond_of_free
      refuses := fun field => respond_of_taken
      forgets := fun field later taken => run_eq_of_taken ran taken later }

/-- Two fields and a third one whose name is taken, with a document in between. -/
def latecomer : List Operation := [
  .addField ⟨"title", .text, ⟨true, true, true⟩⟩,
  .insert ((Document.ofKey "a").withTokens 0 [⟨.ofString "hen", 1⟩]),
  .addField ⟨"body", .text, ⟨true, false, false⟩⟩,
  .addField ⟨"title", .plain, ⟨false, true, false⟩⟩]

theorem latecomer_keepsRegister :
    (latecomer.foldl Schema.after .empty).fields.length ≤ UInt32.size ∧
    ∃ index replies, transcript .classic latecomer = .ok (index, replies) ∧
      KeepsRegister .classic latecomer index replies ∧
      replies.filterMap Reply.granted? = [0, 1] := by
  have room : (latecomer.foldl Schema.after .empty).fields.length ≤ UInt32.size := by
    decide +kernel
  have keeps := transcript_keepsRegister .classic room
  have granted : (transcript .classic latecomer).toOption.map
      (fun result => result.2.filterMap Reply.granted?) = some [0, 1] := by
    decide +kernel
  refine ⟨room, ?_⟩
  cases reached : transcript .classic latecomer with
  | error reason =>
    rw [reached] at granted
    cases granted
  | ok result =>
    rw [reached] at keeps granted
    exact ⟨result.1, result.2, rfl, keeps, Option.some.inj granted⟩

/-- A field that nothing is done with, under the digits of a number. -/
def numbered (n : Nat) : Field :=
  ⟨toString n, .plain, ⟨false, false, false⟩⟩

theorem numbered_name_injective {m n : Nat} (same : (numbered m).name = (numbered n).name) :
    m = n := by
  have digits : Nat.toDigits 10 m = Nat.toDigits 10 n := by
    simpa [numbered] using congrArg String.toList same
  rw [← Nat.ofDigitChars_ten_toDigits (n := m), digits, Nat.ofDigitChars_ten_toDigits]

def crowd (count : Nat) : List Operation :=
  (List.range count).map (.addField ∘ numbered)

theorem transcript_crowd (similarity : Similarity) (count : Nat) :
    ∃ index, transcript similarity (crowd count) =
        .ok (index, (List.range count).map fun place => .registered (.ok (.ofNat place))) ∧
      index.schema.fields = (List.range count).map numbered := by
  induction count with
  | zero => exact ⟨_, rfl, rfl⟩
  | succ count ih =>
    obtain ⟨index, reached, fields⟩ := ih
    have free : index.schema.find? (numbered count).name = none := by
      rw [← Option.not_isSome_iff_eq_none, Schema.isSome_find?_iff, fields, List.map_map,
        List.mem_map]
      rintro ⟨earlier, before, same⟩
      exact Nat.ne_of_lt (List.mem_range.mp before) (numbered_name_injective same)
    obtain ⟨next, responded⟩ := exists_respond_of_free free
    rcases schema_of_respond responded with ⟨field, same, -, appended⟩ | ⟨refused, -⟩
    · cases same
      refine ⟨next, ?_, ?_⟩
      · have number : index.schema.nextId = .ofNat count := by
          rw [Schema.nextId, fields, List.length_map, List.length_range]
        rw [crowd, List.range_succ, List.map_append, List.map_singleton, ← crowd, transcript,
          List.foldlM_append, ← transcript, reached, Fault.ok_bind, List.foldlM_cons,
          Function.comp_apply, responded, number, List.map_append]
        rfl
      · rw [appended, fields, List.range_succ, List.map_append, List.map_singleton]
    · cases refused

/-- The field after the first `2 ^ 32` is granted zero again, and its name finds a field of another
name. -/
theorem crowd_starts_over : ∃ index replies,
    transcript .smoothed (crowd (UInt32.size + 1)) = .ok (index, replies) ∧
    replies[0]? = some (.registered (.ok 0)) ∧
    replies[UInt32.size]? = some (.registered (.ok 0)) ∧
    index.schema.find? "4294967296" = some 0 ∧
    (index.schema.get? 0).map Field.name = some "0" ∧
    ¬ KeepsRegister .smoothed (crowd (UInt32.size + 1)) index replies := by
  obtain ⟨index, reached, fields⟩ := transcript_crowd .smoothed (UInt32.size + 1)
  have granted (place : Nat) (inside : place < UInt32.size + 1) :
      ((List.range (UInt32.size + 1)).map fun place =>
        Reply.registered (.ok (.ofNat place)))[place]? =
          some (.registered (.ok (.ofNat place))) := by
    rw [List.getElem?_map, List.getElem?_range inside, Option.map_some]
  have named : (numbered UInt32.size).name = "4294967296" := by decide +kernel
  have found : index.schema.find? "4294967296" = some 0 := by
    have last : index.schema.fields.findIdx? (·.name = "4294967296") = some UInt32.size := by
      rw [fields, ← named]
      refine List.findIdx?_eq_some_iff_getElem.mpr ⟨?_, ?_, ?_⟩
      · rw [List.length_map, List.length_range]
        exact Nat.lt_succ_self _
      · rw [List.getElem_map, List.getElem_range]
        exact decide_eq_true rfl
      · intro earlier before same
        rw [List.getElem_map, List.getElem_range] at same
        exact Nat.ne_of_lt before (numbered_name_injective (of_decide_eq_true same))
    rw [Schema.find?, last]
    rfl
  have read : index.schema.get? 0 = some (numbered 0) := by
    rw [Schema.get?, fields, List.getElem?_map]
    exact congrArg _ (List.getElem?_range (Nat.succ_pos _))
  refine ⟨index, _, reached, granted 0 (Nat.succ_pos _), granted _ (Nat.lt_succ_self _), found,
    by rw [read]; rfl, fun keeps => ?_⟩
  obtain ⟨field, there, same⟩ := (keeps.find_iff "4294967296" 0).mp found
  rw [read] at there
  cases there
  exact absurd same (by decide +kernel)

end Index

end Relevance
