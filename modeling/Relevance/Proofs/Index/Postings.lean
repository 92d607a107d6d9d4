import Relevance.Proofs.Fault
import Relevance.Proofs.Index.DocMap
import Relevance.Proofs.Index.Grouping

set_option autoImplicit false

namespace Relevance.FieldIndex

/-- A document is entered under a term. -/
def Posts (postings : Std.ExtTreeMap Term DocSet) (term : Term) (doc : DocId) : Prop :=
  ∃ docs, postings[term]? = some docs ∧ doc ∈ docs

/-- No term is kept without documents. -/
def Occupied (postings : Std.ExtTreeMap Term DocSet) : Prop :=
  ∀ (term : Term) (docs : DocSet), postings[term]? = some docs → docs ≠ ∅

@[simp] theorem getElem?_enter (doc : DocId) (postings : Std.ExtTreeMap Term DocSet)
    (term other : Term) :
    (enter doc postings term)[other]? =
      if term = other then some ((postings[term]?.getD (∅ : DocSet)).insert doc)
      else postings[other]? := by
  simp only [enter, Std.ExtTreeMap.getElem?_alter, Std.LawfulEqCmp.compare_eq_iff_eq]

@[simp] theorem getElem?_withdraw (doc : DocId) (postings : Std.ExtTreeMap Term DocSet)
    (term other : Term) :
    (withdraw doc postings term)[other]? =
      if term = other then
        (postings[term]?.map fun docs : DocSet => docs.erase doc).filter fun docs => !docs.isEmpty
      else postings[other]? := by
  simp only [withdraw, Std.ExtTreeMap.getElem?_alter, Std.LawfulEqCmp.compare_eq_iff_eq]

theorem posts_enter (doc : DocId) (postings : Std.ExtTreeMap Term DocSet) (entered term : Term)
    (other : DocId) :
    Posts (enter doc postings entered) term other ↔
      Posts postings term other ∨ term = entered ∧ other = doc := by
  unfold Posts
  rw [getElem?_enter]
  by_cases same : entered = term
  · subst same
    cases postings[entered]? with
    | none => simp [eq_comm (a := doc)]
    | some docs => simp [Std.ExtTreeSet.mem_insert, or_comm, eq_comm (a := doc)]
  · simp [same, Ne.symm same]

theorem occupied_enter (doc : DocId) {postings : Std.ExtTreeMap Term DocSet}
    (occupied : Occupied postings) (entered : Term) : Occupied (enter doc postings entered) := by
  intro term docs present
  rw [getElem?_enter] at present
  split at present
  · cases present
    exact Std.ExtTreeSet.insert_ne_empty
  · exact occupied term docs present

theorem posts_withdraw (doc : DocId) (postings : Std.ExtTreeMap Term DocSet)
    (withdrawn term : Term) (other : DocId) :
    Posts (withdraw doc postings withdrawn) term other ↔
      Posts postings term other ∧ ¬ (term = withdrawn ∧ other = doc) := by
  unfold Posts
  rw [getElem?_withdraw]
  by_cases same : withdrawn = term
  · subst same
    cases postings[withdrawn]? with
    | none => simp
    | some docs =>
      simp only [↓reduceIte, Option.map_some, Option.filter_eq_some_iff, Option.some.injEq,
        Bool.not_eq_true', Std.ExtTreeSet.isEmpty_eq_false_iff, true_and]
      constructor
      · rintro ⟨left, ⟨rfl, -⟩, member⟩
        rw [Std.ExtTreeSet.mem_erase] at member
        refine ⟨⟨docs, rfl, member.2⟩, fun gone => ?_⟩
        exact member.1 (Std.LawfulEqCmp.compare_eq_iff_eq.mpr gone.symm)
      · rintro ⟨⟨_, rfl, member⟩, kept⟩
        have stays : other ∈ docs.erase doc := by
          rw [Std.ExtTreeSet.mem_erase]
          exact ⟨fun gone => kept (Std.LawfulEqCmp.compare_eq_iff_eq.mp gone).symm, member⟩
        exact ⟨docs.erase doc, ⟨rfl, Std.ExtTreeSet.ne_empty_of_mem stays⟩, stays⟩
  · simp [same, Ne.symm same]

theorem occupied_withdraw (doc : DocId) {postings : Std.ExtTreeMap Term DocSet}
    (occupied : Occupied postings) (withdrawn : Term) :
    Occupied (withdraw doc postings withdrawn) := by
  intro term docs present
  rw [getElem?_withdraw] at present
  split at present
  · have left := (Option.filter_eq_some_iff.mp present).2
    simpa only [Bool.not_eq_true', Std.ExtTreeSet.isEmpty_eq_false_iff] using left
  · exact occupied term docs present

theorem posts_foldl_enter (doc : DocId) (terms : List Term)
    (postings : Std.ExtTreeMap Term DocSet) (term : Term) (other : DocId) :
    Posts (terms.foldl (enter doc) postings) term other ↔
      Posts postings term other ∨ term ∈ terms ∧ other = doc := by
  induction terms generalizing postings with
  | nil => simp
  | cons first rest ih =>
    rw [List.foldl_cons, ih, posts_enter, List.mem_cons]
    tauto

theorem occupied_foldl_enter (doc : DocId) (terms : List Term)
    {postings : Std.ExtTreeMap Term DocSet} (occupied : Occupied postings) :
    Occupied (terms.foldl (enter doc) postings) := by
  induction terms generalizing postings with
  | nil => exact occupied
  | cons first rest ih => exact ih (occupied_enter doc occupied first)

theorem posts_foldl_withdraw (doc : DocId) (terms : List Term)
    (postings : Std.ExtTreeMap Term DocSet) (term : Term) (other : DocId) :
    Posts (terms.foldl (withdraw doc) postings) term other ↔
      Posts postings term other ∧ ¬ (term ∈ terms ∧ other = doc) := by
  induction terms generalizing postings with
  | nil => simp
  | cons first rest ih =>
    rw [List.foldl_cons, ih, posts_withdraw, List.mem_cons]
    tauto

theorem occupied_foldl_withdraw (doc : DocId) (terms : List Term)
    {postings : Std.ExtTreeMap Term DocSet} (occupied : Occupied postings) :
    Occupied (terms.foldl (withdraw doc) postings) := by
  induction terms generalizing postings with
  | nil => exact occupied
  | cons first rest ih => exact ih (occupied_withdraw doc occupied first)

theorem setNorm_grow (table : NormTable) (doc : Nat) (norm : UInt8) :
    setNorm (table.grow doc) doc norm = .ok ((table.grow doc).setIfInBounds doc norm) := by
  have size : (table.grow doc).size = table.size + (doc + 1 - table.size) := by
    simp [NormTable.grow]
  have inside : doc < (table.grow doc).size := by
    rw [size]
    omega
  exact if_pos inside

/-- What a new document makes of the index of a field. -/
def added (field : FieldIndex) (doc : DocId) (tokens : List Token) (groups : List TermPositions) :
    FieldIndex where
  postings := (groups.map Prod.fst).foldl (enter doc) field.postings
  positions := field.positions.insert doc groups
  docCount := field.docCount + if tokens = [] then 0 else 1
  tokenCount := field.tokenCount + tokens.length
  termCount := field.termCount + groups.length
  norms := field.norms.map fun table =>
    if tokens = [] then table else (table.grow doc).setIfInBounds doc (lengthNorm tokens)

/-- A document can be added as long as no counter overflows. -/
theorem add_eq_ok_iff {field next : FieldIndex} {doc : DocId} {tokens : List Token}
    {groups : List TermPositions} :
    field.add doc tokens groups = .ok next ↔
      (tokens ≠ [] → field.docCount + 1 < UInt64.size) ∧
        field.tokenCount + tokens.length < UInt64.size ∧
        field.termCount + groups.length < UInt64.size ∧
        field.added doc tokens groups = next := by
  unfold add added
  cases tokens with
  | nil =>
    cases field.norms <;>
      simp [Fault.bind_eq_ok_iff, Fault.checkedAdd_eq_ok_iff, and_assoc]
  | cons token rest =>
    cases field.norms <;>
      simp [Fault.bind_eq_ok_iff, Fault.checkedAdd_eq_ok_iff, setNorm_grow, and_assoc]

/-- What is left of the index of a field without a document of the given terms. -/
def removed (field : FieldIndex) (doc : DocId) (groups : List TermPositions) : FieldIndex where
  postings := (groups.map Prod.fst).foldl (withdraw doc) field.postings
  positions := field.positions.erase doc
  docCount := field.docCount - if tokenTotal groups = 0 then 0 else 1
  tokenCount := field.tokenCount - tokenTotal groups
  termCount := field.termCount - groups.length
  norms := field.norms.map (·.setIfInBounds doc 0)

/-- A document can be removed as long as the counters cover it. -/
theorem remove_eq_ok_iff {field next : FieldIndex} {doc : DocId} {groups : List TermPositions}
    (present : field.positions[doc]? = some groups) :
    field.remove doc = .ok next ↔
      (tokenTotal groups ≠ 0 → 1 ≤ field.docCount) ∧
        tokenTotal groups ≤ field.tokenCount ∧ groups.length ≤ field.termCount ∧
        field.removed doc groups = next := by
  unfold remove removed
  rw [present]
  by_cases none : tokenTotal groups = 0 <;>
    simp [none, Fault.bind_eq_ok_iff, Fault.checkedSub_eq_ok_iff, and_assoc]

theorem remove_of_absent {field : FieldIndex} {doc : DocId}
    (absent : field.positions[doc]? = none) : field.remove doc = .ok field := by
  unfold remove
  rw [absent]

/-- A document with tokens counts once. -/
def docWeight (groups : List TermPositions) : Nat :=
  if tokenTotal groups = 0 then 0 else 1

/-- The postings are those of the positions, and the counters are their sums. -/
structure Agrees (field : FieldIndex) : Prop where
  posts_iff : ∀ term doc, Posts field.postings term doc ↔
    ∃ groups, field.positions[doc]? = some groups ∧ term ∈ groups.map Prod.fst
  occupied : Occupied field.postings
  docCount_eq : field.docCount = DocMap.total field.positions docWeight
  tokenCount_eq : field.tokenCount = DocMap.total field.positions tokenTotal
  termCount_eq : field.termCount = DocMap.total field.positions List.length
  tokenCount_lt : field.tokenCount < UInt64.size

theorem agrees_empty : FieldIndex.empty.Agrees where
  posts_iff term doc := by simp [Posts, FieldIndex.empty]
  occupied term docs present := by simp [FieldIndex.empty] at present
  docCount_eq := rfl
  tokenCount_eq := rfl
  termCount_eq := rfl
  tokenCount_lt := show 0 < UInt64.size by decide

@[simp] theorem withTable_positions (field : FieldIndex) (norms : Bool) :
    (field.withTable norms).positions = field.positions := by
  cases norms <;> rfl

theorem Agrees.withTable {field : FieldIndex} (agrees : field.Agrees) (norms : Bool) :
    (field.withTable norms).Agrees := by
  cases norms
  · exact agrees
  · exact ⟨agrees.posts_iff, agrees.occupied, agrees.docCount_eq, agrees.tokenCount_eq,
      agrees.termCount_eq, agrees.tokenCount_lt⟩

/-- A new document with its tokens grouped keeps the two halves together. -/
theorem Agrees.add {field next : FieldIndex} {doc : DocId} {tokens : List Token}
    {groups : List TermPositions} (agrees : field.Agrees) (fresh : field.positions[doc]? = none)
    (grouped : tokenTotal groups = tokens.length)
    (success : field.add doc tokens groups = .ok next) : next.Agrees := by
  obtain ⟨-, tokensFit, -, rfl⟩ := add_eq_ok_iff.mp success
  refine ⟨?_, occupied_foldl_enter doc _ agrees.occupied, ?_, ?_, ?_, tokensFit⟩
  · intro term other
    simp only [added, posts_foldl_enter, agrees.posts_iff, Std.ExtTreeMap.getElem?_insert,
      Std.LawfulEqCmp.compare_eq_iff_eq]
    by_cases same : doc = other
    · subst same
      simp [fresh]
    · simp [same, Ne.symm same]
  · rw [added, DocMap.total_insert fresh, agrees.docCount_eq, docWeight, grouped]
    simp only [List.length_eq_zero_iff]
  · rw [added, DocMap.total_insert fresh, agrees.tokenCount_eq, grouped]
  · rw [added, DocMap.total_insert fresh, agrees.termCount_eq]

/-- Removing a document, whether it is there or not, keeps the two halves together. -/
theorem Agrees.remove {field next : FieldIndex} {doc : DocId} (agrees : field.Agrees)
    (success : field.remove doc = .ok next) :
    next.Agrees ∧ next.positions = field.positions.erase doc := by
  cases present : field.positions[doc]? with
  | none =>
    rw [remove_of_absent present] at success
    cases success
    refine ⟨agrees, (Std.ExtTreeMap.ext_getElem? fun {other} => ?_).symm⟩
    rw [Std.ExtTreeMap.getElem?_erase]
    split
    · rename_i same
      rw [← Std.LawfulEqCmp.eq_of_compare same, present]
    · rfl
  | some groups =>
    obtain ⟨-, -, -, rfl⟩ := (remove_eq_ok_iff present).mp success
    refine ⟨⟨?_, occupied_foldl_withdraw doc _ agrees.occupied, ?_, ?_, ?_, ?_⟩, rfl⟩
    · intro term other
      simp only [removed, posts_foldl_withdraw, agrees.posts_iff, Std.ExtTreeMap.getElem?_erase,
        Std.LawfulEqCmp.compare_eq_iff_eq]
      by_cases same : doc = other
      · subst same
        simp [present]
      · simp [same, Ne.symm same]
    · have sum := DocMap.total_erase present docWeight
      have count := agrees.docCount_eq
      simp only [removed, docWeight] at sum count ⊢
      omega
    · have sum := DocMap.total_erase present tokenTotal
      have count := agrees.tokenCount_eq
      simp only [removed]
      omega
    · have sum := DocMap.total_erase present List.length
      have count := agrees.termCount_eq
      simp only [removed]
      omega
    · have fits := agrees.tokenCount_lt
      simp only [removed]
      omega

end Relevance.FieldIndex
