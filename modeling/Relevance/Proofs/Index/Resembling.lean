import Mathlib.Data.Option.Basic
import Relevance.Index.Store
import Relevance.Proofs.Index.Postings

/-
Two indexes that are built side by side go through the same steps if what they keep of each document
is alike: of as many tokens, under the same terms. Nothing else of it decides whether a step
succeeds or what it does to counters, postings and norms.
-/

set_option autoImplicit false

namespace Relevance

section
variable {α β : Type} {related : α → β → Prop} {first : Option α} {second : Option β}

theorem eq_none_of_rel (relates : Option.Rel related first second) (absent : first = none) :
    second = none := by
  subst absent
  cases relates
  rfl

theorem exists_eq_some_of_rel (relates : Option.Rel related first second) {value : α}
    (present : first = some value) : ∃ other, second = some other ∧ related value other := by
  subst present
  cases relates with
  | some pair => exact ⟨_, rfl, pair⟩

end

namespace FieldIndex

variable {alike : List TermPositions → List TermPositions → Prop} {field other next : FieldIndex}
  {doc : DocId}

/-- Two fields differ only in what they keep of each document, and those are alike. -/
structure Resembles (alike : List TermPositions → List TermPositions → Prop)
    (field other : FieldIndex) : Prop where
  postings_eq : field.postings = other.postings
  positions_rel : ∀ doc : DocId, Option.Rel alike field.positions[doc]? other.positions[doc]?
  docCount_eq : field.docCount = other.docCount
  tokenCount_eq : field.tokenCount = other.tokenCount
  termCount_eq : field.termCount = other.termCount
  norms_eq : field.norms = other.norms

/-- Documents that are alike have as many tokens, under the same terms in some order. -/
structure Countable (alike : List TermPositions → List TermPositions → Prop) : Prop where
  terms_perm : ∀ {groups others}, alike groups others →
    (groups.map Prod.fst).Perm (others.map Prod.fst)
  tokenTotal_eq : ∀ {groups others}, alike groups others → tokenTotal groups = tokenTotal others

theorem Countable.length_eq (countable : Countable alike) {groups others : List TermPositions}
    (pair : alike groups others) : groups.length = others.length := by
  simpa only [List.length_map] using (countable.terms_perm pair).length_eq

instance (doc : DocId) : RightCommutative (enter doc) where
  right_comm postings first second := by
    refine Std.ExtTreeMap.ext_getElem? fun {term} => ?_
    simp only [getElem?_enter]
    by_cases atFirst : first = term <;> by_cases atSecond : second = term <;>
      by_cases same : first = second <;> simp_all

instance (doc : DocId) : RightCommutative (withdraw doc) where
  right_comm postings first second := by
    refine Std.ExtTreeMap.ext_getElem? fun {term} => ?_
    simp only [getElem?_withdraw]
    by_cases atFirst : first = term <;> by_cases atSecond : second = term <;>
      by_cases same : first = second <;> simp_all

/-- Two fields that are registered resemble each other if they did so before, or were not there. -/
theorem resembles_withTable {first second : Option FieldIndex}
    (relates : Option.Rel (Resembles alike) first second) (norms : Bool) :
    ((first.getD .empty).withTable norms).Resembles alike
      ((second.getD .empty).withTable norms) := by
  have start : (first.getD .empty).Resembles alike (second.getD .empty) := by
    cases relates with
    | some resembles => exact resembles
    | none => exact ⟨rfl, fun doc => by simp [FieldIndex.empty], rfl, rfl, rfl, rfl⟩
  cases norms
  · exact start
  · exact ⟨start.postings_eq, start.positions_rel, start.docCount_eq, start.tokenCount_eq,
      start.termCount_eq, rfl⟩

/-- Adding documents that are alike, of the same length, makes no other difference. -/
theorem Resembles.add (countable : Countable alike) {tokens words : List Token}
    {groups others : List TermPositions} (resembles : field.Resembles alike other)
    (pair : alike groups others) (length_eq : tokens.length = words.length)
    (norm_eq : lengthNorm tokens = lengthNorm words)
    (success : field.add doc tokens groups = .ok next) :
    ∃ twin, other.add doc words others = .ok twin ∧ next.Resembles alike twin := by
  obtain ⟨docs, total, terms, rfl⟩ := add_eq_ok_iff.mp success
  obtain ⟨postings, positions, docCount, tokenCount, termCount, norms⟩ := resembles
  have empty : tokens = [] ↔ words = [] := by
    rw [← List.length_eq_zero_iff, length_eq, List.length_eq_zero_iff]
  rw [docCount, ne_eq, empty] at docs
  rw [tokenCount, length_eq] at total
  rw [termCount, countable.length_eq pair] at terms
  refine ⟨_, add_eq_ok_iff.mpr ⟨docs, total, terms, rfl⟩, ?_, fun id => ?_, ?_, ?_, ?_, ?_⟩
  · simp only [added, postings, (countable.terms_perm pair).foldl_eq]
  · simp only [added, Std.ExtTreeMap.getElem?_insert]
    split
    · exact .some pair
    · exact positions id
  · simp only [added, docCount, empty]
  · simp only [added, tokenCount, length_eq]
  · simp only [added, termCount, countable.length_eq pair]
  · simp only [added, norms, empty, norm_eq]

theorem Resembles.remove (countable : Countable alike) (resembles : field.Resembles alike other)
    (success : field.remove doc = .ok next) :
    ∃ twin, other.remove doc = .ok twin ∧ next.Resembles alike twin := by
  obtain ⟨postings, positions, docCount, tokenCount, termCount, norms⟩ := id resembles
  cases present : field.positions[doc]? with
  | none =>
    rw [remove_of_absent present] at success
    cases success
    exact ⟨other, remove_of_absent (eq_none_of_rel (positions doc) present), resembles⟩
  | some groups =>
    obtain ⟨others, there, pair⟩ := exists_eq_some_of_rel (positions doc) present
    have total_eq := countable.tokenTotal_eq pair
    have length_eq := countable.length_eq pair
    obtain ⟨docs, total, terms, rfl⟩ := (remove_eq_ok_iff present).mp success
    rw [docCount, total_eq] at docs
    rw [tokenCount, total_eq] at total
    rw [termCount, length_eq] at terms
    refine ⟨_, (remove_eq_ok_iff there).mpr ⟨docs, total, terms, rfl⟩, ?_, fun id => ?_, ?_, ?_,
      ?_, ?_⟩
    · simp only [removed, postings, (countable.terms_perm pair).foldl_eq]
    · simp only [removed, Std.ExtTreeMap.getElem?_erase]
      split
      · exact .none
      · exact positions id
    · simp only [removed, docCount, total_eq]
    · simp only [removed, tokenCount, total_eq]
    · simp only [removed, termCount, length_eq]
    · simp only [removed, norms]

end FieldIndex

/-- The fields of two indexes are related one by one. -/
abbrev FieldsRelated (related : FieldIndex → FieldIndex → Prop)
    (fields others : Std.ExtTreeMap FieldId FieldIndex) : Prop :=
  ∀ id : FieldId, Option.Rel related fields[id]? others[id]?

namespace Index

variable {related : FieldIndex → FieldIndex → Prop}
  {fields others after : Std.ExtTreeMap FieldId FieldIndex}

theorem updateField_simulates (relates : FieldsRelated related fields others) {id : FieldId}
    {change twin : FieldIndex → Except Fault FieldIndex}
    (each : ∀ field other, related field other → ∀ next, change field = .ok next →
      ∃ later, twin other = .ok later ∧ related next later)
    (success : updateField fields id change = .ok after) :
    ∃ later, updateField others id twin = .ok later ∧ FieldsRelated related after later := by
  unfold updateField at success ⊢
  cases present : fields[id]? with
  | none =>
    rw [present] at success
    rw [eq_none_of_rel (relates id) present]
    cases success
    exact ⟨others, rfl, relates⟩
  | some field =>
    obtain ⟨other, there, known⟩ := exists_eq_some_of_rel (relates id) present
    rw [present] at success
    rw [there]
    obtain ⟨next, changed, done⟩ := Fault.bind_eq_ok_iff.mp success
    cases done
    obtain ⟨later, twinned, pair⟩ := each field other known next changed
    refine ⟨others.insert id later, by simp only [twinned]; rfl, fun own => ?_⟩
    rw [Std.ExtTreeMap.getElem?_insert, Std.ExtTreeMap.getElem?_insert]
    split
    · exact .some pair
    · exact relates own

/-- If the fields of two documents change related indexes alike, the indexes stay related. -/
theorem updateFields_simulates (relates : FieldsRelated related fields others)
    {entries pairs : List (FieldId × List Token)}
    {change twin : FieldId × List Token → FieldIndex → Except Fault FieldIndex}
    (each : List.Forall₂ (fun entry pair => entry.1 = pair.1 ∧ ∀ field other,
      related field other → ∀ next, change entry field = .ok next →
        ∃ later, twin pair other = .ok later ∧ related next later) entries pairs)
    (success : entries.foldlM (fun fields entry => updateField fields entry.1 (change entry))
      fields = .ok after) :
    ∃ later, pairs.foldlM (fun fields entry => updateField fields entry.1 (twin entry))
      others = .ok later ∧ FieldsRelated related after later := by
  refine Fault.foldlM_simulates (each.imp fun entry pair alike => ?_) relates success
  intro stage twins related next updated
  rw [← alike.1]
  exact updateField_simulates related alike.2 updated

section
variable {alike : List TermPositions → List TermPositions → Prop} {index other : Index}

theorem docsWithTerm_eq_of_resembles
    (resemble : FieldsRelated (FieldIndex.Resembles alike) index.fields other.fields)
    (field : FieldId) (term : Term) :
    index.docsWithTerm? field term = other.docsWithTerm? field term := by
  have known := resemble field
  unfold docsWithTerm?
  generalize index.fields[field]? = first at known ⊢
  generalize other.fields[field]? = second at known ⊢
  cases known with
  | none => rfl
  | some pair => simp only [Option.bind_some, FieldIndex.docs?, pair.postings_eq]

theorem norms_eq_of_resembles
    (resemble : FieldsRelated (FieldIndex.Resembles alike) index.fields other.fields)
    (field : FieldId) : index.norms? field = other.norms? field := by
  have known := resemble field
  unfold norms?
  generalize index.fields[field]? = first at known ⊢
  generalize other.fields[field]? = second at known ⊢
  cases known with
  | none => rfl
  | some pair => exact pair.norms_eq

theorem fieldStatistics_eq_of_resembles (schema_eq : index.schema = other.schema)
    (nextId_eq : index.nextId = other.nextId)
    (resemble : FieldsRelated (FieldIndex.Resembles alike) index.fields other.fields)
    (field : FieldId) : index.fieldStatistics field = other.fieldStatistics field := by
  have known := resemble field
  unfold fieldStatistics maxDoc
  rw [schema_eq, nextId_eq]
  generalize index.fields[field]? = first at known ⊢
  generalize other.fields[field]? = second at known ⊢
  cases known with
  | none => rfl
  | some pair => simp only [pair.docCount_eq, pair.tokenCount_eq, pair.termCount_eq]

end

end Index

end Relevance
