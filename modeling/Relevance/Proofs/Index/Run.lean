import Relevance.Proofs.Index.Sound

set_option autoImplicit false

namespace Relevance

inductive Operation where
  | addField (field : Field)
  | insert (document : Document)
  | erase (key : String)

def Schema.after (schema : Schema) : Operation → Schema
  | .addField field => ((schema.add field).toOption.map Prod.fst).getD schema
  | _ => schema

namespace Index

/-- Takes one step. A field whose name is taken is refused and changes nothing. -/
def perform (index : Index) : Operation → Except Fault Index
  | .addField field =>
    match index.addField field with
    | .ok (next, _) => .ok next
    | .error _ => .ok index
  | .insert document => Prod.fst <$> index.insert document
  | .erase key => Prod.fst <$> index.erase key

def run (similarity : Similarity) (operations : List Operation) : Except Fault Index :=
  operations.foldlM perform (empty similarity)

/-- A property of all runs, shown step by step. -/
theorem run_induction {similarity : Similarity} {motive : List Operation → Index → Prop}
    (start : motive [] (empty similarity))
    (step : ∀ operations index operation next, run similarity operations = .ok index →
      motive operations index → index.perform operation = .ok next →
      motive (operations ++ [operation]) next)
    {operations : List Operation} {index : Index}
    (reached : run similarity operations = .ok index) : motive operations index := by
  induction operations using List.reverseRecOn generalizing index with
  | nil =>
    cases reached
    exact start
  | append_singleton operations operation ih =>
    rw [run, List.foldlM_append, Fault.bind_eq_ok_iff] at reached
    obtain ⟨before, earlier, last⟩ := reached
    rw [List.foldlM_cons, Fault.bind_eq_ok_iff] at last
    obtain ⟨next, performed, done⟩ := last
    cases done
    exact step operations before operation index earlier (ih earlier) performed

theorem perform_addField {index next : Index} {field : Field}
    (success : index.perform (.addField field) = .ok next) :
    (∃ id, index.addField field = .ok (next, id)) ∨ next = index := by
  cases registered : index.addField field with
  | error reason =>
    simp only [perform, registered] at success
    cases success
    exact Or.inr rfl
  | ok result =>
    simp only [perform, registered] at success
    cases success
    exact Or.inl ⟨result.2, rfl⟩

theorem Sound.perform {index next : Index} {operation : Operation} (sound : index.Sound)
    (success : index.perform operation = .ok next) : next.Sound := by
  cases operation with
  | addField field =>
    rcases perform_addField success with ⟨id, registered⟩ | rfl
    · exact sound.addField registered
    · exact sound
  | insert document =>
    obtain ⟨⟨_, doc⟩, inserted, rfl⟩ := Fault.map_eq_ok_iff.mp success
    exact sound.insert inserted
  | erase key =>
    obtain ⟨⟨_, removed⟩, erased, rfl⟩ := Fault.map_eq_ok_iff.mp success
    exact sound.erase erased

theorem documents_erase {index next : Index} {key : String} {removed : Bool}
    (success : index.erase key = .ok (next, removed)) {doc : DocId} {document : Document}
    (stored : next.documents[doc]? = some document) : index.documents[doc]? = some document := by
  rcases erase_eq_ok success with ⟨-, rfl, -⟩ | ⟨gone, after, -, -, rfl, -⟩
  · exact stored
  · rw [Std.ExtTreeMap.getElem?_erase] at stored
    split at stored
    · cases stored
    · exact stored

/-- A step brings in no other document than the one it inserts. -/
theorem documents_perform {index next : Index} {operation : Operation}
    (success : index.perform operation = .ok next) {doc : DocId} {document : Document}
    (stored : next.documents[doc]? = some document) :
    index.documents[doc]? = some document ∨ .insert document = operation := by
  cases operation with
  | addField field =>
    rcases perform_addField success with ⟨id, registered⟩ | rfl
    · obtain ⟨schema, -, -, rfl⟩ := addField_eq_ok registered
      exact Or.inl stored
    · exact Or.inl stored
  | insert new =>
    obtain ⟨⟨_, id⟩, inserted, rfl⟩ := Fault.map_eq_ok_iff.mp success
    obtain ⟨cleared, removed, after, erased, -, -, rfl, -⟩ := insert_eq_ok inserted
    simp only [Std.ExtTreeMap.getElem?_insert] at stored
    split at stored
    · cases stored
      exact Or.inr rfl
    · exact Or.inl (documents_erase erased stored)
  | erase key =>
    obtain ⟨⟨_, removed⟩, erased, rfl⟩ := Fault.map_eq_ok_iff.mp success
    exact Or.inl (documents_erase erased stored)

theorem sound_of_run {similarity : Similarity} {operations : List Operation} {index : Index}
    (reached : run similarity operations = .ok index) : index.Sound := by
  refine run_induction (motive := fun _ index => index.Sound) (sound_empty similarity) ?_ reached
  intro _ before operation next _ sound performed
  exact sound.perform performed

/-- Every document of an index was inserted at some step. -/
theorem inserted_of_run {similarity : Similarity} {operations : List Operation} {index : Index}
    (reached : run similarity operations = .ok index) {doc : DocId} {document : Document}
    (stored : index.documents[doc]? = some document) : .insert document ∈ operations := by
  refine run_induction (motive := fun operations index => ∀ (doc : DocId) (document : Document),
    index.documents[doc]? = some document → .insert document ∈ operations)
    (fun doc document stored => ?_) ?_ reached doc document stored
  · simp [empty] at stored
  intro operations index operation next earlier inserted performed doc document stored
  rw [List.mem_append, List.mem_singleton]
  rcases documents_perform performed stored with old | new
  · exact Or.inl (inserted doc document old)
  · exact Or.inr new

theorem schema_erase {index next : Index} {key : String} {removed : Bool}
    (success : index.erase key = .ok (next, removed)) : next.schema = index.schema := by
  rcases erase_eq_ok success with ⟨-, rfl, -⟩ | ⟨_, _, -, -, rfl, -⟩ <;> rfl

theorem schema_perform {index next : Index} {operation : Operation}
    (success : index.perform operation = .ok next) :
    next.schema = index.schema.after operation := by
  cases operation with
  | addField field =>
    simp only [perform, Index.addField, Schema.after] at success ⊢
    cases registered : index.schema.add field with
    | error reason =>
      rw [registered] at success
      cases success
      rfl
    | ok result =>
      rw [registered] at success
      cases success
      rfl
  | insert document =>
    obtain ⟨⟨_, doc⟩, inserted, rfl⟩ := Fault.map_eq_ok_iff.mp success
    obtain ⟨cleared, removed, after, erased, -, -, rfl, -⟩ := insert_eq_ok inserted
    have kept : cleared.schema = index.schema := schema_erase erased
    exact kept
  | erase key =>
    obtain ⟨⟨_, removed⟩, erased, rfl⟩ := Fault.map_eq_ok_iff.mp success
    exact schema_erase erased

/-- The schema of an index is made by the operations that register fields. -/
theorem schema_of_run {similarity : Similarity} {operations : List Operation} {index : Index}
    (reached : run similarity operations = .ok index) :
    index.schema = operations.foldl Schema.after .empty := by
  refine run_induction (motive := fun operations index =>
    index.schema = operations.foldl Schema.after .empty) rfl ?_ reached
  intro operations index operation next _ known performed
  rw [List.foldl_append, ← known, List.foldl_cons, List.foldl_nil]
  exact schema_perform performed

theorem foldl_after_of_settled {rest : List Operation}
    (settled : ∀ field, .addField field ∉ rest) (schema : Schema) :
    rest.foldl Schema.after schema = schema := by
  induction rest with
  | nil => rfl
  | cons operation rest ih =>
    have same : schema.after operation = schema := by
      cases operation with
      | addField field => exact absurd List.mem_cons_self (settled field)
      | insert document => rfl
      | erase key => rfl
    rw [List.foldl_cons, same]
    exact ih fun field member => settled field (List.mem_cons_of_mem _ member)

/-- No field is registered after a document with that field was inserted. -/
def FieldsFirst (similarity : Similarity) (operations : List Operation) : Prop :=
  ∀ (earlier later : List Operation) (field : Field) (index next : Index) (id : FieldId)
    (document : Document), operations = earlier ++ .addField field :: later →
    run similarity earlier = .ok index → index.addField field = .ok (next, id) →
    .insert document ∈ earlier → id ∉ document.tokens.map Prod.fst

theorem FieldsFirst.of_append {similarity : Similarity} {earlier later : List Operation}
    (first : FieldsFirst similarity (earlier ++ later)) : FieldsFirst similarity earlier := by
  intro before after field index next id document same
  refine first before (after ++ later) field index next id document ?_
  rw [same, List.append_assoc, List.cons_append]

/-- Fields that are all registered before anything else come first. -/
theorem fieldsFirst_of_leading (similarity : Similarity) (fields : List Field)
    {rest : List Operation} (settled : ∀ field, .addField field ∉ rest) :
    FieldsFirst similarity (fields.map .addField ++ rest) := by
  intro earlier later field index next id document same _ _ inserted
  rcases List.append_eq_append_iff.mp same with ⟨between, -, tail⟩ | ⟨between, head, -⟩
  · exact absurd (tail ▸ List.mem_append_right _ List.mem_cons_self) (settled field)
  · have leading : .insert document ∈ fields.map Operation.addField :=
      head ▸ List.mem_append_left _ inserted
    obtain ⟨_, -, impossible⟩ := List.mem_map.mp leading
    cases impossible

theorem complete_of_run {similarity : Similarity} {operations : List Operation} {index : Index}
    (first : FieldsFirst similarity operations) (reached : run similarity operations = .ok index) :
    index.Complete := by
  refine run_induction (motive := fun operations index =>
    FieldsFirst similarity operations → index.Complete)
    (fun _ => complete_empty similarity) ?_ reached first
  intro operations index operation next earlier complete performed first
  have known : index.Complete := complete first.of_append
  have sound : index.Sound := sound_of_run earlier
  cases operation with
  | addField field =>
    rcases perform_addField performed with ⟨id, registered⟩ | rfl
    · refine known.addField registered (fun doc document tokens stored member => ?_) sound
      exact first operations [] field index next id document rfl earlier registered
        (inserted_of_run earlier stored) (List.mem_map_of_mem member)
    · exact known
  | insert document =>
    obtain ⟨⟨_, doc⟩, inserted, rfl⟩ := Fault.map_eq_ok_iff.mp performed
    exact known.insert sound inserted
  | erase key =>
    obtain ⟨⟨_, removed⟩, erased, rfl⟩ := Fault.map_eq_ok_iff.mp performed
    exact known.erase sound erased

end Index

end Relevance
