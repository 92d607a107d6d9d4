import Relevance.Proofs.Index.Norms

set_option autoImplicit false

namespace Relevance

/-- The first of all tokens has none before it. -/
theorem overlapCount_lt {tokens : List Token} (nonempty : tokens ≠ []) :
    overlapCount tokens < tokens.length := by
  have pairs : overlapCount tokens ≤ (tokens.zip tokens.tail).length := List.countP_le_length
  have positive : 0 < tokens.length := List.length_pos_iff.mpr nonempty
  rw [List.length_zip, List.length_tail] at pairs
  omega

theorem FieldIndex.normOf_of_ne_nil {tokens : List Token} (nonempty : tokens ≠ []) :
    normOf tokens =
      Norm.encode
        (Similarity.lengthNorm 1.0 (.ofNat tokens.length) (.ofNat (overlapCount tokens)) true) :=
  if_neg nonempty

namespace Index

variable {index : Index}

/-- A document is there with tokens in a field that is looked up. -/
def HasTokens (index : Index) (doc : DocId) (field : FieldId) (tokens : List Token) : Prop :=
  tokens ≠ [] ∧ index.schema.isIndexed field = true ∧
    ∃ document, index.document? doc = some document ∧ document.tokens.lookup field = some tokens

theorem HasTokens.searchable_eq {doc : DocId} {field : FieldId} {tokens : List Token}
    (present : index.HasTokens doc field tokens) : index.searchable doc field = tokens := by
  obtain ⟨-, indexed, document, stored, kept⟩ := present
  exact searchable_of_indexed stored indexed (Document.mem_tokens_iff.mpr kept)

/-- Every other document has nothing that is looked up. -/
theorem searchable_eq_nil {doc : DocId} {field : FieldId}
    (absent : ∀ tokens, ¬ index.HasTokens doc field tokens) : index.searchable doc field = [] := by
  apply Decidable.byContradiction
  intro nonempty
  apply absent (index.searchable doc field)
  refine ⟨nonempty, ?_⟩
  unfold searchable at nonempty ⊢
  cases stored : index.document? doc with
  | none =>
    rw [stored] at nonempty
    exact absurd rfl nonempty
  | some document =>
    simp only [stored] at nonempty ⊢
    split at nonempty
    · rename_i indexed
      refine ⟨indexed, document, rfl, ?_⟩
      cases kept : document.tokens.lookup field with
      | none =>
        rw [kept] at nonempty
        exact absurd rfl nonempty
      | some tokens => rw [if_pos indexed, Option.getD_some]
    · exact absurd rfl nonempty

/-- After a run the fields with norms are those registered so. The norm of a document with tokens in
a field is made of their number and of the number of those on the position of the token before them,
of which there are fewer; and it is zero for every other document. -/
theorem norms_exact_of_run {similarity : Similarity} {operations : List Operation}
    (first : FieldsFirst similarity operations) (reached : run similarity operations = .ok index)
    (field : FieldId)
    (short : ∀ doc tokens, index.HasTokens doc field tokens → tokens.length < UInt32.size) :
    ((index.norms? field).isSome = true ↔ ∃ (place : Nat) (registered : Field),
      index.schema.fields[place]? = some registered ∧ field = .ofNat place ∧
        registered.flags.norms = true) ∧
    ∀ table, index.norms? field = some table → ∀ doc,
      (∀ tokens, index.HasTokens doc field tokens →
        ∃ length overlaps : UInt32, length.toNat = tokens.length ∧
          overlaps.toNat = overlapCount tokens ∧ overlaps < length ∧
          table.norm doc = Norm.encode (Similarity.lengthNorm 1.0 length overlaps true)) ∧
      ((∀ tokens, ¬ index.HasTokens doc field tokens) → table.norm doc = 0) := by
  have norms := (normed_of_run first reached).norms_eq (sound_of_run reached)
  constructor
  · have flagged := congrArg Option.isSome (norms 0 field)
    rw [Option.isSome_map] at flagged
    rw [flagged, ← Schema.hasNorms_iff]
    split <;> simp_all
  intro table kept doc
  have norm : table.norm doc = FieldIndex.normOf (index.searchable doc field) := by
    have both := norms doc field
    rw [kept, Option.map_some] at both
    split at both
    · exact Option.some.inj both
    · cases both
  constructor
  · intro tokens present
    have length := UInt32.toNat_ofNat_of_lt' (short doc tokens present)
    have fewer := overlapCount_lt present.1
    have overlaps := UInt32.toNat_ofNat_of_lt' (Nat.lt_trans fewer (short doc tokens present))
    refine ⟨.ofNat tokens.length, .ofNat (overlapCount tokens), length, overlaps, ?_, ?_⟩
    · rw [UInt32.lt_iff_toNat_lt, length, overlaps]
      exact fewer
    · rw [norm, present.searchable_eq, FieldIndex.normOf_of_ne_nil present.1]
  · intro absent
    rw [norm, searchable_eq_nil absent]
    rfl

/-- A field whose length counts, a document with two tokens on one position, and one that is
replaced by another without tokens. -/
def stack : List Operation := [
  .addField ⟨"title", .text, ⟨true, true, true⟩⟩,
  .insert ((Document.ofKey "a").withTokens 0
    [⟨.ofString "red", 0⟩, ⟨.ofString "crimson", 0⟩, ⟨.ofString "fox", 1⟩]),
  .insert ((Document.ofKey "b").withTokens 0 [⟨.ofString "hen", 0⟩]),
  .insert (Document.ofKey "b")]

theorem length_lt_of_stack {document : Document} (inserted : .insert document ∈ stack)
    {field : FieldId} {tokens : List Token}
    (kept : document.tokens.lookup field = some tokens) : tokens.length < 4 := by
  have entry : (field, tokens) ∈ document.tokens := Document.mem_tokens_iff.mpr kept
  simp only [stack, List.mem_cons, List.not_mem_nil, or_false, reduceCtorEq, false_or,
    Operation.insert.injEq] at inserted
  rcases inserted with rfl | rfl | rfl
  all_goals simp [Document.withTokens, Document.ofKey, replaceField] at entry
  all_goals simp [entry]

theorem stack_norms_exact : ∃ index table, run .classic stack = .ok index ∧
    index.norms? 0 = some table ∧
    table.norm 0 = Norm.encode (Similarity.lengthNorm 1.0 3 1 true) ∧
    table.norm 1 = 0 := by
  have answer : (run .classic stack).toOption.map (fun index =>
      ((index.norms? 0).isSome, index.schema.isIndexed 0, (index.document? 1).isNone,
        (index.document? 0).bind (·.tokens.lookup 0))) =
      some (true, true, true,
        some [⟨.ofString "red", 0⟩, ⟨.ofString "crimson", 0⟩, ⟨.ofString "fox", 1⟩]) := by
    decide +kernel
  cases reached : run .classic stack with
  | error reason =>
    rw [reached] at answer
    cases answer
  | ok index =>
    rw [reached] at answer
    simp only [Except.toOption, Option.map_some, Option.some.injEq, Prod.mk.injEq] at answer
    obtain ⟨some, indexed, replaced, kept⟩ := answer
    obtain ⟨table, present⟩ := Option.isSome_iff_exists.mp some
    obtain ⟨document, stored, kept⟩ := Option.bind_eq_some_iff.mp kept
    have first : FieldsFirst .classic stack := fieldsFirst_of_leading .classic [_] (by simp)
    have short : ∀ doc tokens, index.HasTokens doc 0 tokens → tokens.length < UInt32.size := by
      intro doc tokens ⟨_, _, other, there, found⟩
      have few := length_lt_of_stack (inserted_of_run reached there) found
      exact Nat.lt_trans few (by decide)
    have exact := (norms_exact_of_run first reached 0 short).2 table present
    refine ⟨index, table, rfl, present, ?_, ?_⟩
    · obtain ⟨length, overlaps, three, one, -, norm⟩ :=
        (exact 0).1 _ ⟨List.cons_ne_nil _ _, indexed, document, stored, kept⟩
      have three : length = 3 := UInt32.toNat_inj.mp three
      have one : overlaps = 1 := UInt32.toNat_inj.mp (one.trans (by decide))
      rwa [three, one] at norm
    · apply (exact 1).2
      intro tokens ⟨_, _, other, there, _⟩
      rw [there] at replaced
      cases replaced

end Index

end Relevance
