import Mathlib.Data.List.Perm.Basic
import Relevance.Proofs.Index.Resembling
import Relevance.Proofs.Index.Statistics

set_option autoImplicit false

namespace Relevance

/-- Positions that are moved by an amount, none of them out of range. -/
def Shifted (amount : Int) : List UInt32 → List UInt32 → Prop :=
  List.Forall₂ fun position moved => (moved.toNat : Int) = position.toNat + amount

/-- The same term at a position that is moved by an amount. -/
structure Token.Moved (amount : Int) (token moved : Token) : Prop where
  term_eq : moved.term = token.term
  position_eq : (moved.position.toNat : Int) = token.position.toNat + amount

/-- The same document, but for the tokens of each field, which are moved by an amount. -/
structure Document.Moved (document moved : Document) : Prop where
  key_eq : moved.key = document.key
  texts_eq : moved.texts = document.texts
  tokens_moved : List.Forall₂ (fun entry other => entry.1 = other.1 ∧
    ∃ amount, List.Forall₂ (Token.Moved amount) entry.2 other.2) document.tokens moved.tokens

/-- The same operation, but for the tokens of a document, which are moved. -/
inductive Operation.Moved : Operation → Operation → Prop
  | addField (field : Field) : Moved (.addField field) (.addField field)
  | insert {document other : Document} (moved : document.Moved other) :
    Moved (.insert document) (.insert other)
  | erase (key : String) : Moved (.erase key) (.erase key)

section
variable {amount : Int} {positions moved : List UInt32} {tokens others : List Token}

theorem Shifted.getElem (shifted : Shifted amount positions moved) {i : Nat}
    (inside : i < positions.length) (within : i < moved.length) :
    (moved[i].toNat : Int) = positions[i].toNat + amount :=
  List.Forall₂.get shifted inside within

/-- Moving keeps the order. -/
theorem Shifted.ascending (shifted : Shifted amount positions moved)
    (ascending : positions.Pairwise (· ≤ ·)) : moved.Pairwise (· ≤ ·) := by
  rw [List.pairwise_iff_getElem] at ascending ⊢
  intro i j inside within less
  have length_eq := List.Forall₂.length_eq shifted
  have first := shifted.getElem (show i < positions.length by omega) inside
  have second := shifted.getElem (show j < positions.length by omega) within
  have order : positions[i].toNat ≤ positions[j].toNat := ascending i j _ _ less
  rw [UInt32.le_iff_toNat_le]
  omega

/-- Moved positions are sorted as they were. -/
theorem Shifted.sortPositions (shifted : Shifted amount positions moved) :
    Shifted amount (sortPositions positions) (sortPositions moved) := by
  obtain ⟨sorted, placed, perm⟩ :=
    List.perm_comp_forall₂ (sortPositions_perm positions) shifted
  have ascending := Shifted.ascending placed (sortPositions_ascending positions)
  have same : sorted = Relevance.sortPositions moved :=
    (perm.trans (sortPositions_perm moved).symm).eq_of_pairwise
      (fun _ _ _ _ => UInt32.le_antisymm) ascending (sortPositions_ascending moved)
  exact same ▸ placed

theorem map_term_of_moved (shifted : List.Forall₂ (Token.Moved amount) tokens others) :
    others.map Token.term = tokens.map Token.term := by
  induction shifted with
  | nil => rfl
  | cons first _ ih => rw [List.map_cons, List.map_cons, first.term_eq, ih]

theorem shifted_positionsOf (shifted : List.Forall₂ (Token.Moved amount) tokens others)
    (term : Term) : Shifted amount (positionsOf term tokens) (positionsOf term others) := by
  have wanted : List.Forall₂ (Token.Moved amount) (tokens.filter (·.term = term))
      (others.filter (·.term = term)) := by
    refine List.rel_filter (fun token other same => ?_) shifted
    simp only [same.term_eq]
  refine Shifted.sortPositions ?_
  rw [Shifted, List.forall₂_map_left_iff, List.forall₂_map_right_iff]
  exact wanted.imp fun _ _ same => same.position_eq

/-- Two tokens share a position if they share it after they are moved. -/
theorem overlapCount_eq (shifted : List.Forall₂ (Token.Moved amount) tokens others) :
    overlapCount tokens = overlapCount others := by
  unfold overlapCount
  induction shifted with
  | nil => rfl
  | @cons token other _ _ first later ih =>
    cases later with
    | nil => rfl
    | @cons next following _ _ second rest =>
      have same : token.position = next.position ↔ other.position = following.position := by
        have before := first.position_eq
        have after := second.position_eq
        rw [← UInt32.toNat_inj, ← UInt32.toNat_inj]
        omega
      simp only [List.tail_cons, List.zip_cons_cons, List.countP_cons, same] at ih ⊢
      rw [ih]

end

/-- What is kept of a document, with positions that are moved by an amount. -/
def GroupsMoved (groups others : List TermPositions) : Prop :=
  ∃ amount, List.Forall₂ (fun group other => other.1 = group.1 ∧ Shifted amount group.2 other.2)
    groups others

/-- Looking up a term finds its positions, moved like those of all other terms. -/
theorem GroupsMoved.exists_shifted {groups others : List TermPositions}
    (moved : GroupsMoved groups others) : ∃ amount, ∀ term,
      Shifted amount ((groups.lookup term).getD []) ((others.lookup term).getD []) := by
  obtain ⟨amount, pairs⟩ := moved
  refine ⟨amount, fun term => ?_⟩
  induction pairs with
  | nil => exact .nil
  | @cons group other _ _ first _ ih =>
    obtain ⟨_, positions⟩ := group
    obtain ⟨own, placed⟩ := other
    obtain ⟨rfl, shifted⟩ := first
    rw [List.lookup_cons, List.lookup_cons]
    cases term == own with
    | true => exact shifted
    | false => exact ih

theorem groupsMoved_groupByTerm {amount : Int} {tokens others : List Token}
    (shifted : List.Forall₂ (Token.Moved amount) tokens others) :
    GroupsMoved (groupByTerm tokens) (groupByTerm others) := by
  refine ⟨amount, ?_⟩
  rw [groupByTerm, groupByTerm, map_term_of_moved shifted, List.forall₂_map_left_iff,
    List.forall₂_map_right_iff, List.forall₂_same]
  exact fun term _ => ⟨rfl, shifted_positionsOf shifted term⟩

namespace FieldIndex

/-- Moved groups are of as many tokens, under the same terms. -/
theorem countable_groupsMoved : Countable GroupsMoved := by
  constructor
  · rintro groups others ⟨amount, moved⟩
    have terms : groups.map Prod.fst = others.map Prod.fst := by
      induction moved with
      | nil => rfl
      | cons first _ ih => rw [List.map_cons, List.map_cons, first.1, ih]
    rw [terms]
  · rintro groups others ⟨amount, moved⟩
    rw [tokenTotal_eq_sum, tokenTotal_eq_sum]
    induction moved with
    | nil => rfl
    | cons first _ ih =>
      rw [List.map_cons, List.map_cons, List.sum_cons, List.sum_cons, ih,
        List.Forall₂.length_eq first.2]

variable {field other next : FieldIndex}

theorem Resembles.exists_shifted (resembles : field.Resembles GroupsMoved other) (doc : DocId) :
    ∃ amount, ∀ term,
      Shifted amount (field.positionsIn doc term) (other.positionsIn doc term) := by
  have listed := resembles.positions_rel doc
  unfold positionsIn
  generalize field.positions[doc]? = first at listed ⊢
  generalize other.positions[doc]? = second at listed ⊢
  cases listed with
  | none => exact ⟨0, fun _ => .nil⟩
  | some moved => exact moved.exists_shifted

theorem Resembles.add_moved {doc : DocId} {amount : Int} {tokens others : List Token}
    (resembles : field.Resembles GroupsMoved other)
    (shifted : List.Forall₂ (Token.Moved amount) tokens others)
    (success : field.add doc tokens (groupByTerm tokens) = .ok next) :
    ∃ twin, other.add doc others (groupByTerm others) = .ok twin ∧
      next.Resembles GroupsMoved twin := by
  have length_eq : tokens.length = others.length := shifted.length_eq
  refine resembles.add countable_groupsMoved (groupsMoved_groupByTerm shifted) length_eq ?_ success
  rw [lengthNorm, lengthNorm, length_eq, overlapCount_eq shifted]

end FieldIndex

namespace Index

/-- Two indexes differ only in the tokens of each document, which are moved field by field. -/
structure Moved (index other : Index) : Prop where
  schema_eq : index.schema = other.schema
  nextId_eq : index.nextId = other.nextId
  ids_eq : index.ids = other.ids
  documents_rel : ∀ doc : DocId,
    Option.Rel Document.Moved index.documents[doc]? other.documents[doc]?
  fields_rel : FieldsRelated (FieldIndex.Resembles GroupsMoved) index.fields other.fields

variable {index other next : Index}

theorem Moved.tokens_rel (moved : index.Moved other) (doc : DocId) :
    List.Forall₂ (fun entry pair => entry.1 = pair.1)
      ((index.documents[doc]?.map Document.tokens).getD [])
      ((other.documents[doc]?.map Document.tokens).getD []) := by
  have known := moved.documents_rel doc
  generalize index.documents[doc]? = first at known ⊢
  generalize other.documents[doc]? = second at known ⊢
  cases known with
  | none => exact .nil
  | some pair => exact pair.tokens_moved.imp fun _ _ same => same.1

theorem Moved.erase {key : String} {removed : Bool} (moved : index.Moved other)
    (success : index.erase key = .ok (next, removed)) :
    ∃ twin, other.erase key = .ok (twin, removed) ∧ next.Moved twin := by
  obtain ⟨schema, nextId, ids, documents, fields⟩ := id moved
  unfold Index.erase at success ⊢
  rw [← ids]
  split at success
  · cases success
    exact ⟨other, rfl, moved⟩
  · rename_i doc present
    obtain ⟨after, updated, done⟩ := Fault.bind_eq_ok_iff.mp success
    cases done
    obtain ⟨later, twinned, relates⟩ := updateFields_simulates fields
      ((moved.tokens_rel doc).imp fun entry pair same => ⟨same, fun field kept pair _ removes =>
        pair.remove FieldIndex.countable_groupsMoved removes⟩) updated
    refine ⟨{ other with
      ids := index.ids.erase key, documents := other.documents.erase doc, fields := later }, ?_,
      schema, nextId, rfl, fun id => ?_, relates⟩
    · simp only [twinned]
      rfl
    · simp only [Std.ExtTreeMap.getElem?_erase]
      split
      · exact .none
      · exact documents id

theorem Moved.insert {document twin : Document} {doc : DocId} (moved : index.Moved other)
    (pair : document.Moved twin) (success : index.insert document = .ok (next, doc)) :
    ∃ later, other.insert twin = .ok (later, doc) ∧ next.Moved later := by
  unfold Index.insert at success
  obtain ⟨⟨cleared, removed⟩, erased, success⟩ := Fault.bind_eq_ok_iff.mp success
  simp only [Fault.bind_eq_ok_iff] at success
  obtain ⟨fits, counted, after, updated, done⟩ := success
  cases done
  obtain ⟨left, twinned, schema, nextId, ids, documents, fields⟩ := moved.erase erased
  have searched : List.Forall₂ (fun entry other : FieldId × List Token => entry.1 = other.1 ∧
      ∃ amount, List.Forall₂ (Token.Moved amount) entry.2 other.2)
      (document.tokens.filter fun entry => cleared.schema.isIndexed entry.1)
      (twin.tokens.filter fun entry => cleared.schema.isIndexed entry.1) := by
    refine List.rel_filter (fun entry other same => ?_) pair.tokens_moved
    simp only [same.1]
  obtain ⟨later, twins, relates⟩ := updateFields_simulates fields
    (searched.imp fun entry other same => ⟨same.1, fun field kept alike _ adds => by
      obtain ⟨-, amount, shifted⟩ := same
      exact alike.add_moved shifted adds⟩) updated
  refine ⟨{ left with
    nextId := fits
    ids := cleared.ids.insert document.key cleared.nextId
    documents := left.documents.insert cleared.nextId twin
    fields := later }, ?_, schema, rfl, rfl, fun id => ?_, relates⟩
  · unfold Index.insert
    rw [pair.key_eq, twinned, Fault.ok_bind]
    simp only [← nextId, ← schema, ← ids, counted, twins]
    rfl
  · simp only [Std.ExtTreeMap.getElem?_insert]
    split
    · exact .some pair
    · exact documents id

theorem Moved.perform {operation twin : Operation} (moved : index.Moved other)
    (pair : operation.Moved twin) (success : index.perform operation = .ok next) :
    ∃ later, other.perform twin = .ok later ∧ next.Moved later := by
  cases pair with
  | addField field =>
    obtain ⟨schema, nextId, ids, documents, fields⟩ := id moved
    simp only [Index.perform, Index.addField, schema] at success ⊢
    cases registered : other.schema.add field with
    | error reason =>
      rw [registered] at success
      cases success
      exact ⟨other, rfl, moved⟩
    | ok result =>
      rw [registered] at success
      cases success
      refine ⟨_, rfl, rfl, nextId, ids, documents, fun id => ?_⟩
      simp only [Std.ExtTreeMap.getElem?_insert]
      split
      · exact .some (FieldIndex.resembles_withTable (fields result.2) field.flags.norms)
      · exact fields id
  | insert pair =>
    obtain ⟨⟨_, doc⟩, inserted, rfl⟩ := Fault.map_eq_ok_iff.mp success
    obtain ⟨later, twinned, relates⟩ := moved.insert pair inserted
    exact ⟨later, by simp only [Index.perform, twinned, Fault.map_ok], relates⟩
  | erase key =>
    obtain ⟨⟨_, removed⟩, erased, rfl⟩ := Fault.map_eq_ok_iff.mp success
    obtain ⟨later, twinned, relates⟩ := moved.erase erased
    exact ⟨later, by simp only [Index.perform, twinned, Fault.map_ok], relates⟩

/-- A run with moved tokens comes to the same, but for moved positions. -/
theorem exists_run_of_moved {similarity : Similarity} {operations others : List Operation}
    (pairs : List.Forall₂ Operation.Moved operations others)
    (reached : run similarity operations = .ok index) :
    ∃ twin, run similarity others = .ok twin ∧ index.Moved twin := by
  have start : (empty similarity).Moved (empty similarity) := by
    refine ⟨rfl, rfl, rfl, fun doc => ?_, fun id => ?_⟩ <;> simp [empty]
  refine Fault.foldlM_simulates (pairs.imp fun operation other pair => ?_) start reached
  exact fun stage twin moved next performed => moved.perform pair performed

/-- All positions of a field of a document are moved by the same amount. -/
theorem Moved.exists_shifted (moved : index.Moved other) (doc : DocId) (field : FieldId) :
    ∃ amount, ∀ term,
      Shifted amount (index.positions doc field term) (other.positions doc field term) := by
  have known := moved.fields_rel field
  unfold positions
  generalize index.fields[field]? = first at known ⊢
  generalize other.fields[field]? = second at known ⊢
  cases known with
  | none => exact ⟨0, fun term => .nil⟩
  | some resembles => exact resembles.exists_shifted doc

theorem Moved.docsWithTerm_eq (moved : index.Moved other) (field : FieldId) (term : Term) :
    index.docsWithTerm? field term = other.docsWithTerm? field term :=
  docsWithTerm_eq_of_resembles moved.fields_rel field term

theorem Moved.norms_eq (moved : index.Moved other) (field : FieldId) :
    index.norms? field = other.norms? field :=
  norms_eq_of_resembles moved.fields_rel field

theorem Moved.fieldStatistics_eq (moved : index.Moved other) (field : FieldId) :
    index.fieldStatistics field = other.fieldStatistics field :=
  fieldStatistics_eq_of_resembles moved.schema_eq moved.nextId_eq moved.fields_rel field

theorem Moved.termStatistics_eq (moved : index.Moved other) (field : FieldId) (term : Term) :
    index.termStatistics field term = other.termStatistics field term := by
  have lengths : ∀ doc, (index.positions doc field term).length =
      (other.positions doc field term).length := by
    intro doc
    obtain ⟨amount, shifted⟩ := moved.exists_shifted doc field
    exact (shifted term).length_eq
  simp only [Index.termStatistics_eq, moved.docsWithTerm_eq, lengths]

end Index

end Relevance
