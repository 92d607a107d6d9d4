import Relevance.Proofs.Index.Capacity

set_option autoImplicit false

namespace Relevance

theorem keys_perm_of_isSome_eq {α β : Type} {first : Std.ExtTreeMap String α}
    {second : Std.ExtTreeMap String β}
    (same : ∀ key : String, (first[key]?).isSome = (second[key]?).isSome) :
    first.keys.Perm second.keys := by
  refine (List.perm_ext_iff_of_nodup Std.ExtTreeMap.nodup_keys Std.ExtTreeMap.nodup_keys).mpr ?_
  intro key
  rw [Std.ExtTreeMap.mem_keys, Std.ExtTreeMap.mem_keys, Std.ExtTreeMap.mem_iff_isSome_getElem?,
    Std.ExtTreeMap.mem_iff_isSome_getElem?, same]

/-- Maps with the same keys are of the same size. -/
theorem size_eq_of_isSome_eq {α β : Type} {first : Std.ExtTreeMap String α}
    {second : Std.ExtTreeMap String β}
    (same : ∀ key : String, (first[key]?).isSome = (second[key]?).isSome) :
    first.size = second.size := by
  rw [← Std.ExtTreeMap.length_keys, ← Std.ExtTreeMap.length_keys,
    (keys_perm_of_isSome_eq same).length_eq]

def Operation.inserts : Operation → Bool
  | .insert _ => true
  | _ => false

namespace Index

inductive Reply where
  | registered (result : Except SchemaError FieldId)
  | inserted (id : DocId)
  | erased (found : Bool)

/-- Takes one step and gives its answer. A field whose name is taken is refused and changes
nothing. -/
def respond (index : Index) : Operation → Except Fault (Index × Reply)
  | .addField field =>
    match index.addField field with
    | .ok (next, id) => .ok (next, .registered (.ok id))
    | .error reason => .ok (index, .registered (.error reason))
  | .insert document => do
    let (next, id) ← index.insert document
    return (next, .inserted id)
  | .erase key => do
    let (next, found) ← index.erase key
    return (next, .erased found)

/-- The index that a sequence of operations leads to, with the answers on the way. -/
def transcript (similarity : Similarity) (operations : List Operation) :
    Except Fault (Index × List Reply) :=
  operations.foldlM (fun state operation => do
    let (next, reply) ← state.1.respond operation
    return (next, state.2 ++ [reply])) (empty similarity, [])

theorem perform_eq_respond (index : Index) (operation : Operation) :
    index.perform operation = Prod.fst <$> index.respond operation := by
  cases operation with
  | addField field =>
    simp only [perform, respond]
    cases index.addField field <;> rfl
  | insert document =>
    simp only [perform, respond]
    cases index.insert document <;> rfl
  | erase key =>
    simp only [perform, respond]
    cases index.erase key <;> rfl

/-- A run is a transcript without the answers. -/
theorem run_eq_transcript (similarity : Similarity) (operations : List Operation) :
    run similarity operations = Prod.fst <$> transcript similarity operations := by
  induction operations using List.reverseRecOn with
  | nil => rfl
  | append_singleton operations operation ih =>
    rw [run] at ih
    rw [run, transcript, List.foldlM_append, List.foldlM_append, ih, ← transcript]
    cases transcript similarity operations with
    | error reason => rfl
    | ok state =>
      simp only [Fault.map_ok, Fault.ok_bind, List.foldlM_cons, List.foldlM_nil, perform_eq_respond]
      cases state.1.respond operation <;> rfl

/-- The last step of a transcript. -/
theorem transcript_append_eq_ok {similarity : Similarity} {operations : List Operation}
    {operation : Operation} {next : Index} {replies : List Reply}
    (reached : transcript similarity (operations ++ [operation]) = .ok (next, replies)) :
    ∃ index earlier reply, transcript similarity operations = .ok (index, earlier) ∧
      index.respond operation = .ok (next, reply) ∧ replies = earlier ++ [reply] := by
  rw [transcript, List.foldlM_append, Fault.bind_eq_ok_iff] at reached
  obtain ⟨⟨index, earlier⟩, before, last⟩ := reached
  rw [List.foldlM_cons, Fault.bind_eq_ok_iff] at last
  obtain ⟨_, responded, done⟩ := last
  rw [Fault.bind_eq_ok_iff] at responded
  obtain ⟨⟨_, reply⟩, responded, same⟩ := responded
  cases same
  cases done
  exact ⟨index, earlier, reply, before, responded, rfl⟩

def documentUnder? (index : Index) (key : String) : Option Document :=
  (index.idOf? key).bind index.document?

/-- Keys and numbers belong together: the number of a key has a document with that key, and no other
number has one. -/
structure Keyed (index : Index) : Prop where
  document_of_id : ∀ (key : String) (id : DocId), index.ids[key]? = some id →
    ∃ document, index.documents[id]? = some document ∧ document.key = key
  id_of_document : ∀ (id : DocId) (document : Document), index.documents[id]? = some document →
    index.ids[document.key]? = some id

theorem keyed_empty (similarity : Similarity) : (empty similarity).Keyed where
  document_of_id key id known := by simp [empty] at known
  id_of_document id document stored := by simp [empty] at stored

variable {index next : Index}

theorem Keyed.idOf_iff (keyed : index.Keyed) {key : String} {id : DocId} :
    index.idOf? key = some id ↔ ∃ document, index.document? id = some document ∧
      document.key = key := by
  constructor
  · exact keyed.document_of_id key id
  · rintro ⟨document, stored, rfl⟩
    exact keyed.id_of_document id document stored

theorem Keyed.isSome_documentUnder (keyed : index.Keyed) (key : String) :
    (index.documentUnder? key).isSome = (index.ids[key]?).isSome := by
  unfold documentUnder? idOf?
  cases known : index.ids[key]? with
  | none => rfl
  | some id =>
    obtain ⟨document, stored, -⟩ := keyed.document_of_id key id known
    rw [Option.bind_some, document?, stored, Option.isSome_some, Option.isSome_some]

theorem Keyed.erase {key : String} {removed : Bool} (keyed : index.Keyed)
    (success : index.erase key = .ok (next, removed)) : next.Keyed ∧
      ∀ other, next.documentUnder? other =
        if key = other then none else index.documentUnder? other := by
  rcases Index.erase_eq_ok success with ⟨absent, rfl, -⟩ | ⟨doc, after, present, -, rfl, -⟩
  · refine ⟨keyed, fun other => ?_⟩
    split
    · rename_i same
      rw [← same, documentUnder?, idOf?, absent, Option.bind_none]
    · rfl
  obtain ⟨document, stored, own⟩ := keyed.document_of_id key doc present
  -- only the key that is removed has the number that is removed
  have apart : ∀ (other : String) (id : DocId), index.ids[other]? = some id →
      (key = other ↔ doc = id) := by
    intro other id known
    constructor
    · rintro rfl
      exact Option.some.inj (present.symm.trans known)
    · rintro rfl
      obtain ⟨found, there, named⟩ := keyed.document_of_id other doc known
      rw [stored] at there
      cases there
      exact own.symm.trans named
  refine ⟨⟨fun other id known => ?_, fun id found there => ?_⟩, fun other => ?_⟩
  · simp only [Std.ExtTreeMap.getElem?_erase, Std.LawfulEqCmp.compare_eq_iff_eq] at known ⊢
    split at known
    · cases known
    · rename_i differs
      rw [if_neg (mt (apart other id known).mpr differs)]
      exact keyed.document_of_id other id known
  · simp only [Std.ExtTreeMap.getElem?_erase, Std.LawfulEqCmp.compare_eq_iff_eq] at there ⊢
    split at there
    · cases there
    · rename_i differs
      have known := keyed.id_of_document id found there
      rw [if_neg (mt (apart found.key id known).mp differs), known]
  · unfold documentUnder? idOf? document?
    simp only [Std.ExtTreeMap.getElem?_erase, Std.LawfulEqCmp.compare_eq_iff_eq]
    split
    · rfl
    · rename_i differs
      cases known : index.ids[other]? with
      | none => rfl
      | some id =>
        rw [Option.bind_some, Option.bind_some, if_neg (mt (apart other id known).mpr differs)]

theorem Keyed.insert {document : Document} {doc : DocId} (sound : index.Sound)
    (keyed : index.Keyed) (success : index.insert document = .ok (next, doc)) : next.Keyed ∧
      ∀ other, next.documentUnder? other =
        if document.key = other then some document else index.documentUnder? other := by
  obtain ⟨cleared, removed, after, erased, clean, -, -, rfl, -⟩ := sound.insert_eq_ok success
  obtain ⟨known, reads⟩ := keyed.erase erased
  have fresh : ∀ (other : String) (id : DocId), cleared.ids[other]? = some id →
      cleared.nextId ≠ id := by
    rintro other _ named rfl
    obtain ⟨found, stored, -⟩ := known.document_of_id other cleared.nextId named
    exact Nat.lt_irrefl _ (clean.issued cleared.nextId found stored)
  have gone : cleared.ids[document.key]? = none := by
    rw [← Option.not_isSome_iff_eq_none, ← known.isSome_documentUnder, reads, if_pos rfl]
    exact nofun
  refine ⟨⟨fun other id named => ?_, fun id found there => ?_⟩, fun other => ?_⟩
  · simp only [Std.ExtTreeMap.getElem?_insert, Std.LawfulEqCmp.compare_eq_iff_eq] at named ⊢
    split at named
    · rename_i same
      cases named
      exact ⟨document, if_pos rfl, same⟩
    · rw [if_neg (fresh other id named)]
      exact known.document_of_id other id named
  · simp only [Std.ExtTreeMap.getElem?_insert, Std.LawfulEqCmp.compare_eq_iff_eq] at there ⊢
    split at there
    · rename_i same
      cases there
      rw [if_pos rfl, same]
    · have named := known.id_of_document id found there
      rw [if_neg, named]
      intro same
      rw [← same, gone] at named
      cases named
  · unfold documentUnder? idOf? document?
    simp only [Std.ExtTreeMap.getElem?_insert, Std.LawfulEqCmp.compare_eq_iff_eq]
    split
    · simp
    · rename_i differs
      have before := reads other
      rw [if_neg differs] at before
      unfold documentUnder? idOf? document? at before
      rw [← before]
      cases named : cleared.ids[other]? with
      | none => rfl
      | some id => rw [Option.bind_some, Option.bind_some, if_neg (fresh other id named)]

/-- A registered field changes neither keys nor documents. -/
theorem Keyed.addField {field : Field} {id : FieldId} (keyed : index.Keyed)
    (success : index.addField field = .ok (next, id)) : next.Keyed ∧
      ∀ key, next.documentUnder? key = index.documentUnder? key := by
  obtain ⟨schema, -, -, rfl⟩ := addField_eq_ok success
  exact ⟨⟨keyed.document_of_id, keyed.id_of_document⟩, fun _ => rfl⟩

/-- The numbers of documents are the numbers of keys. -/
theorem Keyed.docIds_perm (keyed : index.Keyed) :
    index.docIds.Perm (index.ids.toList.map Prod.snd) := by
  have distinct : (index.ids.toList.map Prod.snd).Nodup := by
    refine List.Nodup.map_on ?_ (List.Nodup.of_map Prod.fst ?_)
    · rintro ⟨key, id⟩ first ⟨other, _⟩ second rfl
      rw [Std.ExtTreeMap.mem_toList_iff_getElem?_eq_some] at first second
      obtain ⟨document, stored, named⟩ := keyed.document_of_id key id first
      obtain ⟨found, there, same⟩ := keyed.document_of_id other id second
      rw [stored] at there
      cases there
      rw [← named, ← same]
    · rw [Std.ExtTreeMap.map_fst_toList_eq_keys]
      exact Std.ExtTreeMap.nodup_keys
  refine (List.perm_ext_iff_of_nodup Std.ExtTreeMap.nodup_keys distinct).mpr fun id => ?_
  rw [Std.ExtTreeMap.mem_keys, Std.ExtTreeMap.mem_iff_isSome_getElem?, List.mem_map]
  constructor
  · intro some
    obtain ⟨document, stored⟩ := Option.isSome_iff_exists.mp some
    refine ⟨(document.key, id), ?_, rfl⟩
    have known := keyed.id_of_document id document stored
    exact Std.ExtTreeMap.mem_toList_iff_getElem?_eq_some.mpr known
  · rintro ⟨⟨key, _⟩, member, rfl⟩
    obtain ⟨document, stored, -⟩ := keyed.document_of_id key _
      (Std.ExtTreeMap.mem_toList_iff_getElem?_eq_some.mp member)
    rw [stored, Option.isSome_some]

theorem Keyed.docCount_eq (keyed : index.Keyed) : index.docCount = index.ids.size := by
  have same := keyed.docIds_perm.length_eq
  rwa [docIds, Std.ExtTreeMap.length_keys, List.length_map, Std.ExtTreeMap.length_toList] at same

def rebind (entries : Std.ExtTreeMap String Document) :
    Operation → Std.ExtTreeMap String Document
  | .addField _ => entries
  | .insert document => entries.insert document.key document
  | .erase key => entries.erase key

/-- The map from keys to documents that a sequence of operations describes. -/
def bindings (operations : List Operation) : Std.ExtTreeMap String Document :=
  operations.foldl rebind ∅

theorem bindings_append (operations : List Operation) (operation : Operation) :
    bindings (operations ++ [operation]) = rebind (bindings operations) operation := by
  rw [bindings, List.foldl_append, List.foldl_cons, List.foldl_nil, ← bindings]

/-- Number of documents that a sequence of operations puts in. -/
def insertionCount (operations : List Operation) : Nat :=
  operations.countP Operation.inserts

theorem insertionCount_append (operations : List Operation) (operation : Operation) :
    insertionCount (operations ++ [operation]) =
      insertionCount operations + operation.inserts.toNat := by
  rw [insertionCount, List.countP_append, List.countP_singleton, ← insertionCount]
  cases operation.inserts <;> rfl

/-- What a step answers after the steps before it: an insertion the number of those before, and a
removal whether its key is bound. -/
inductive Answers (earlier : List Operation) : Operation → Reply → Prop
  | addField (field : Field) (result : Except SchemaError FieldId) :
    Answers earlier (.addField field) (.registered result)
  | insert (document : Document) :
    Answers earlier (.insert document) (.inserted (insertionCount earlier))
  | erase (key : String) :
    Answers earlier (.erase key) (.erased ((bindings earlier).contains key))

def Reply.issued? : Reply → Option DocId
  | .inserted id => some id
  | _ => none

/-- One step keeps the index in line with the map of its keys and is answered by it. -/
theorem respond_of_reads {operations : List Operation} {operation : Operation} {reply : Reply}
    (sound : index.Sound) (keyed : index.Keyed)
    (reads : ∀ key, index.documentUnder? key = (bindings operations)[key]?)
    (counted : index.maxDoc = insertionCount operations)
    (success : index.respond operation = .ok (next, reply)) :
    next.Keyed ∧ (∀ key, next.documentUnder? key = (bindings (operations ++ [operation]))[key]?) ∧
      next.maxDoc = insertionCount (operations ++ [operation]) ∧
      Answers operations operation reply := by
  simp only [bindings_append, insertionCount_append]
  cases operation with
  | addField field =>
    simp only [respond] at success
    split at success
    · rename_i registered
      cases success
      obtain ⟨kept, same⟩ := keyed.addField registered
      obtain ⟨schema, -, -, rfl⟩ := addField_eq_ok registered
      exact ⟨kept, fun key => (same key).trans (reads key), counted, .addField field _⟩
    · cases success
      exact ⟨keyed, reads, counted, .addField field _⟩
  | insert document =>
    simp only [respond, Fault.bind_eq_ok_iff] at success
    obtain ⟨⟨_, id⟩, inserted, same⟩ := success
    cases same
    obtain ⟨kept, changed⟩ := keyed.insert sound inserted
    obtain ⟨cleared, removed, after, erased, -, rfl, -, rfl, -⟩ := sound.insert_eq_ok inserted
    have last : cleared.nextId = insertionCount operations := by
      rw [← counted]
      rcases Index.erase_eq_ok erased with ⟨-, rfl, -⟩ | ⟨_, _, -, -, rfl, -⟩ <;> rfl
    refine ⟨kept, fun key => ?_, congrArg (· + 1) last, last ▸ .insert document⟩
    rw [changed, rebind, Std.ExtTreeMap.getElem?_insert, reads]
    simp only [Std.LawfulEqCmp.compare_eq_iff_eq]
  | erase key =>
    simp only [respond, Fault.bind_eq_ok_iff] at success
    obtain ⟨⟨left, found⟩, erased, same⟩ := success
    cases same
    obtain ⟨kept, changed⟩ := keyed.erase erased
    have last : left.maxDoc = insertionCount operations := by
      rw [← counted]
      rcases Index.erase_eq_ok erased with ⟨-, rfl, -⟩ | ⟨_, _, -, -, rfl, -⟩ <;> rfl
    have bound : found = (bindings operations).contains key := by
      obtain ⟨_, again⟩ := sound.exists_erase key
      rw [erased] at again
      cases again
      rw [← keyed.isSome_documentUnder, reads, Std.ExtTreeMap.contains_eq_isSome_getElem?]
    refine ⟨kept, fun other => ?_, last, bound ▸ .erase key⟩
    rw [changed, rebind, Std.ExtTreeMap.getElem?_erase, reads]
    simp only [Std.LawfulEqCmp.compare_eq_iff_eq]

/-- An index with all its answers is a map from keys to documents that gives out new numbers. -/
structure BehavesAsMap (operations : List Operation) (index : Index) (replies : List Reply) :
    Prop where
  /-- The document under a key is the one last put in under it, with all it holds. -/
  reads : ∀ key, index.documentUnder? key = (bindings operations)[key]?
  /-- A key that is bound has one number, and a number that has a document is that of its key. -/
  idOf_iff : ∀ key id, index.idOf? key = some id ↔
    ∃ document, index.document? id = some document ∧ document.key = key
  docCount_eq : index.docCount = (bindings operations).size
  /-- Every step is answered as the map after the steps before it says. -/
  answers : ∀ (i : Nat) (operation : Operation), operations[i]? = some operation →
    ∃ reply, replies[i]? = some reply ∧ Answers (operations.take i) operation reply
  /-- Every number given out is larger than all before it. -/
  issued_ascending : (replies.filterMap Reply.issued?).Pairwise (· < ·)
  issued_lt : ∀ id ∈ replies.filterMap Reply.issued?, id < index.maxDoc
  document_lt : ∀ id document, index.document? id = some document → id < index.maxDoc
  maxDoc_eq : index.maxDoc = insertionCount operations

theorem issued_of_answers {earlier : List Operation} {operation : Operation} {reply : Reply}
    (answered : Answers earlier operation reply) :
    reply.issued? = if operation.inserts then some (insertionCount earlier) else none := by
  cases answered <;> rfl

/-- What a transcript keeps from step to step. -/
theorem transcript_spec {similarity : Similarity} {operations : List Operation} {index : Index}
    {replies : List Reply} (reached : transcript similarity operations = .ok (index, replies)) :
    index.Keyed ∧ (∀ key, index.documentUnder? key = (bindings operations)[key]?) ∧
      index.maxDoc = insertionCount operations ∧ replies.length = operations.length ∧
      (∀ (i : Nat) (operation : Operation), operations[i]? = some operation →
        ∃ reply, replies[i]? = some reply ∧ Answers (operations.take i) operation reply) ∧
      replies.filterMap Reply.issued? = List.range (insertionCount operations) := by
  induction operations using List.reverseRecOn generalizing index replies with
  | nil =>
    cases reached
    refine ⟨keyed_empty similarity, fun key => ?_, rfl, rfl, nofun, rfl⟩
    simp [documentUnder?, idOf?, empty, bindings]
  | append_singleton operations operation ih =>
    obtain ⟨before, earlier, reply, start, responded, rfl⟩ := transcript_append_eq_ok reached
    obtain ⟨keyed, reads, counted, size, answers, issued⟩ := ih start
    have sound : before.Sound := sound_of_run (by rw [run_eq_transcript, start, Fault.map_ok])
    obtain ⟨keyed, reads, counted, answered⟩ :=
      respond_of_reads sound keyed reads counted responded
    refine ⟨keyed, reads, counted, ?_, fun i asked present => ?_, ?_⟩
    · rw [List.length_append, List.length_append, size, List.length_singleton,
        List.length_singleton]
    · rcases Nat.lt_trichotomy i operations.length with old | rfl | beyond
      · rw [List.getElem?_append_left old] at present
        rw [List.getElem?_append_left (size ▸ old), List.take_append_of_le_length old.le]
        exact answers i asked present
      · rw [List.getElem?_concat_length] at present
        cases present
        rw [← size, List.getElem?_concat_length, size, List.take_left]
        exact ⟨reply, rfl, answered⟩
      · rw [List.getElem?_eq_none (by simp only [List.length_append, List.length_singleton]; omega)]
          at present
        cases present
    · rw [List.filterMap_append, issued, insertionCount_append, List.filterMap_cons,
        issued_of_answers answered, List.filterMap_nil]
      cases operation.inserts with
      | false => exact List.append_nil _
      | true => exact List.range_succ.symm

/-- After a run keys and numbers belong together, and the document under a key is the one last put
in under it. -/
theorem keyed_of_run {similarity : Similarity} {operations : List Operation} {index : Index}
    (reached : run similarity operations = .ok index) :
    index.Keyed ∧ ∀ key, index.documentUnder? key = (bindings operations)[key]? := by
  rw [run_eq_transcript, Fault.map_eq_ok_iff] at reached
  obtain ⟨⟨_, replies⟩, reached, rfl⟩ := reached
  obtain ⟨keyed, reads, -⟩ := transcript_spec reached
  exact ⟨keyed, reads⟩

/-- Along every sequence of operations an index behaves as a map from keys to documents. Only the
counters set an end to it. -/
theorem transcript_behavesAsMap (similarity : Similarity) (operations : List Operation) :
    match transcript similarity operations with
    | .ok (index, replies) => BehavesAsMap operations index replies
    | .error reason => reason = .additionOverflow ∧ UInt64.size ≤ load operations := by
  cases reached : transcript similarity operations with
  | error reason =>
    exact run_eq_error (by rw [run_eq_transcript, reached]; rfl)
  | ok result =>
    obtain ⟨index, replies⟩ := result
    obtain ⟨keyed, reads, counted, -, answers, issued⟩ := transcript_spec reached
    have sound : index.Sound := sound_of_run (by rw [run_eq_transcript, reached, Fault.map_ok])
    refine ⟨reads, fun key id => keyed.idOf_iff, ?_, answers, ?_, ?_, sound.issued, counted⟩
    · rw [keyed.docCount_eq]
      refine size_eq_of_isSome_eq fun key => ?_
      rw [← keyed.isSome_documentUnder, reads]
    · rw [issued]
      exact List.pairwise_lt_range
    · rw [issued, counted]
      exact fun id => List.mem_range.mp

end Index

end Relevance
