import Mathlib.Algebra.BigOperators.Finprod
import Mathlib.Algebra.Order.BigOperators.Group.List
import Relevance.Proofs.Index.Counts
import Relevance.Proofs.Index.Exact
import Relevance.Proofs.Numeric.Double

set_option autoImplicit false

namespace Relevance

/-- Members that weigh nothing may be left out of a sum. -/
theorem sum_map_eq_of_subset {part whole : List DocId} (distinct : part.Nodup)
    (all : whole.Nodup) (inside : part ⊆ whole) {weight : DocId → Nat}
    (outside : ∀ doc ∈ whole, doc ∉ part → weight doc = 0) :
    (part.map weight).sum = (whole.map weight).sum := by
  rw [← List.sum_toFinset _ distinct, ← List.sum_toFinset _ all]
  refine Finset.sum_subset (fun doc member => ?_) fun doc member missing => ?_
  · rw [List.mem_toFinset] at member ⊢
    exact inside member
  · rw [List.mem_toFinset] at member missing
    exact outside doc member missing

theorem countP_eq_sum (holds : DocId → Bool) (docs : List DocId) :
    docs.countP holds = (docs.map fun doc => (holds doc).toNat).sum := by
  induction docs with
  | nil => rfl
  | cons doc rest ih =>
    rw [List.countP_cons, List.map_cons, List.sum_cons, ih, Nat.add_comm]
    cases holds doc <;> rfl

/-- What the documents of a map weigh, summed over a list that has them all. -/
theorem DocMap.total_eq_sum {β : Type} {map : DocMap β} {docs : List DocId} (all : docs.Nodup)
    (covered : ∀ (doc : DocId) (value : β), map[doc]? = some value → doc ∈ docs)
    (weight : β → Nat) :
    map.total weight = (docs.map fun doc => (map[doc]?.map weight).getD 0).sum := by
  have listed : ∀ entry ∈ map.toList, weight entry.2 = (map[entry.1]?.map weight).getD 0 := by
    rintro ⟨doc, value⟩ member
    rw [Std.ExtTreeMap.mem_toList_iff_getElem?_eq_some] at member
    rw [member, Option.map_some, Option.getD_some]
  have keys : (map.toList.map fun entry => weight entry.2) =
      map.keys.map fun doc => (map[doc]?.map weight).getD 0 := by
    rw [List.map_congr_left listed, ← Std.ExtTreeMap.map_fst_toList_eq_keys, List.map_map]
    rfl
  rw [DocMap.total, keys]
  refine sum_map_eq_of_subset Std.ExtTreeMap.nodup_keys all (fun doc member => ?_) ?_
  · rw [Std.ExtTreeMap.mem_keys, Std.ExtTreeMap.mem_iff_isSome_getElem?] at member
    obtain ⟨value, present⟩ := Option.isSome_iff_exists.mp member
    exact covered doc value present
  · intro doc _ missing
    rw [Std.ExtTreeMap.mem_keys, Std.ExtTreeMap.mem_iff_isSome_getElem?,
      Option.not_isSome_iff_eq_none] at missing
    rw [missing]
    rfl

/-- What the documents with a term weigh is no more than what all documents weigh. -/
theorem FieldIndex.Agrees.sum_docs_le {field : FieldIndex} (agrees : field.Agrees) {term : Term}
    {docs : DocSet} (posted : field.docs? term = some docs) (weight : List TermPositions → Nat) :
    (docs.toList.map fun doc => (field.positions[doc]?.map weight).getD 0).sum ≤
      DocMap.total field.positions weight := by
  have known : ∀ doc groups, field.positions[doc]? = some groups → doc ∈ field.positions.keys := by
    intro doc groups present
    rw [Std.ExtTreeMap.mem_keys, Std.ExtTreeMap.mem_iff_isSome_getElem?, present, Option.isSome_some]
  have inside : docs.toList ⊆ field.positions.keys := by
    intro doc member
    have listed : Posts field.postings term doc :=
      ⟨docs, posted, Std.ExtTreeSet.mem_toList.mp member⟩
    obtain ⟨groups, present, -⟩ := (agrees.posts_iff term doc).mp listed
    exact known doc groups present
  obtain ⟨part, same, shorter⟩ := docs.nodup_toList.subperm inside
  rw [DocMap.total_eq_sum Std.ExtTreeMap.nodup_keys known, ← (same.map _).sum_eq]
  exact (shorter.map _).sum_le_sum fun _ _ => Nat.zero_le _

/-- The share of documents with a term, upside down, that rarity is the logarithm of. -/
def Similarity.share (similarity : Similarity) (docFreq docCount : Nat) : Float :=
  countToDouble (docCount + similarity.countOffset) /
    countToDouble (docFreq + similarity.countOffset)

/-- Rarity is the logarithm of a share that is never below one, if there are no more documents with
the term than documents. Only a count that leaves its range has no rarity. -/
theorem Similarity.idf_cases (similarity : Similarity) {docFreq docCount : Nat}
    (order : docFreq ≤ docCount) :
    (1.0 ≤ similarity.share docFreq docCount ∧
      similarity.idf docFreq docCount =
        .ok (narrow (ln (similarity.share docFreq docCount) + 1.0))) ∨
    UInt64.size ≤ docCount + similarity.countOffset ∧
      similarity.idf docFreq docCount = .error .additionOverflow := by
  have offset : 0 < similarity.countOffset := by cases similarity <;> decide
  by_cases fits : docCount + similarity.countOffset < UInt64.size
  · refine Or.inl ⟨Double.one_le_quotient (Nat.add_pos_right _ offset)
      (Nat.add_le_add_right order _) fits, ?_⟩
    rw [Similarity.idf, checkedAdd_of_lt fits,
      checkedAdd_of_lt (Nat.lt_of_le_of_lt (Nat.add_le_add_right order _) fits)]
    rfl
  · refine Or.inr ⟨Nat.le_of_not_lt fits, ?_⟩
    rw [Similarity.idf, checkedAdd, if_neg fits]
    rfl

namespace Index

variable {index : Index} {field : FieldId} {doc : DocId} {term : Term}

theorem mem_docIds_iff : doc ∈ index.docIds ↔ ∃ document, index.document? doc = some document := by
  rw [docIds, Std.ExtTreeMap.mem_keys, Std.ExtTreeMap.mem_iff_isSome_getElem?,
    Option.isSome_iff_exists]
  rfl

theorem nodup_docIds (index : Index) : index.docIds.Nodup :=
  Std.ExtTreeMap.nodup_keys

/-- Only documents that are there have tokens. -/
theorem mem_docIds_of_searchable (some : index.searchable doc field ≠ []) :
    doc ∈ index.docIds := by
  rw [mem_docIds_iff]
  unfold searchable at some
  split at some
  · exact ⟨_, ‹_›⟩
  · exact absurd rfl some

/-- Whatever is summed up in a field is a sum over the tokens of its documents. -/
theorem Sound.total_eq_sum (sound : index.Sound) (complete : index.Complete) {kept : FieldIndex}
    (present : index.fields[field]? = some kept) {weight : List TermPositions → Nat}
    (nothing : weight [] = 0) : DocMap.total kept.positions weight =
      (index.docIds.map fun doc => weight (groupByTerm (index.searchable doc field))).sum := by
  rw [DocMap.total_eq_sum index.nodup_docIds]
  · refine congrArg List.sum (List.map_congr_left fun doc _ => ?_)
    rw [← sound.groups_eq complete doc present]
    cases kept.positions[doc]? with
    | none => exact nothing.symm
    | some groups => rfl
  · intro doc groups known
    obtain ⟨-, document, tokens, stored, -⟩ :=
      sound.grounded field kept doc groups present known
    exact mem_docIds_iff.mpr ⟨document, stored⟩

/-- The documents of a term are those with the term among their tokens. -/
theorem Sound.docsWithTerm_perm (sound : index.Sound) (complete : index.Complete)
    (field : FieldId) (term : Term) : ((index.docsWithTerm? field term).getD []).Perm
      (index.docIds.filter fun doc => term ∈ (index.searchable doc field).map Token.term) := by
  have distinct : ((index.docsWithTerm? field term).getD []).Nodup := by
    cases found : index.docsWithTerm? field term with
    | none => exact List.nodup_nil
    | some docs => exact (sound.docsWithTerm_eq_some found).2.imp Nat.ne_of_lt
  refine (List.perm_ext_iff_of_nodup distinct (index.nodup_docIds.filter _)).mpr fun doc => ?_
  rw [sound.mem_docsWithTerm_iff, sound.positions_eq complete, ne_eq, positionsOf_eq_nil_iff,
    not_not, List.mem_filter, decide_eq_true_iff]
  refine ⟨fun has => ⟨?_, has⟩, And.right⟩
  obtain ⟨token, member, -⟩ := List.mem_map.mp has
  exact mem_docIds_of_searchable (List.ne_nil_of_mem member)

theorem foldl_add_eq_sum (weight : DocId → Nat) (docs : List DocId) (start : Int) :
    docs.foldl (fun (total : Int) doc => total + weight doc) start =
      start + (docs.map weight).sum := by
  induction docs generalizing start with
  | nil => simp
  | cons doc rest ih =>
    rw [List.foldl_cons, ih, List.map_cons, List.sum_cons, Int.natCast_add, Int.add_assoc]

/-- The counts of a term are those of its documents. -/
theorem termStatistics_eq (index : Index) (field : FieldId) (term : Term) :
    index.termStatistics field term = ⟨term, ((index.docsWithTerm? field term).getD []).length,
      (((index.docsWithTerm? field term).getD []).map fun doc =>
        (index.positions doc field term).length).sum⟩ := by
  unfold termStatistics FieldIndex.termStatistics docsWithTerm? positions
  cases index.fields[field]? with
  | none => rfl
  | some kept =>
    rw [Option.bind_some]
    cases found : kept.docs? term with
    | none => simp only [found]; rfl
    | some docs =>
      simp only [found, foldl_add_eq_sum, Int.zero_add, Option.map_some, Option.getD_some,
        Std.ExtTreeSet.length_toList]

/-- The number of documents of a term. -/
theorem Sound.docFreq_eq (sound : index.Sound) (complete : index.Complete) (field : FieldId)
    (term : Term) : (index.termStatistics field term).docFreq =
      index.docIds.countP fun doc => term ∈ (index.searchable doc field).map Token.term := by
  rw [termStatistics_eq, (sound.docsWithTerm_perm complete field term).length_eq,
    List.countP_eq_length_filter]

/-- The number of times that a term stands in documents. -/
theorem Sound.totalTermFreq_eq (sound : index.Sound) (complete : index.Complete) (field : FieldId)
    (term : Term) : (index.termStatistics field term).totalTermFreq =
      (index.docIds.map fun doc => ((index.searchable doc field).map Token.term).count term).sum := by
  have listed := sound.docsWithTerm_perm complete field term
  rw [termStatistics_eq]
  simp only [sound.positions_eq complete, length_positionsOf]
  refine congrArg Nat.cast (sum_map_eq_of_subset ?_ index.nodup_docIds ?_ fun doc there missing => ?_)
  · exact listed.nodup_iff.mpr (index.nodup_docIds.filter _)
  · exact fun doc member => List.mem_of_mem_filter (listed.mem_iff.mp member)
  · rw [List.count_eq_zero]
    intro has
    exact missing (listed.mem_iff.mpr (List.mem_filter.mpr ⟨there, decide_eq_true has⟩))

/-- Counting every term of a list counts the list. -/
theorem finsum_count (terms : List Term) : ∑ᶠ term, (terms.count term : Int) = terms.length := by
  have support : (Function.support fun term => (terms.count term : Int)) ⊆ terms.toFinset := by
    intro term some
    rw [Function.mem_support, Nat.cast_ne_zero] at some
    rw [List.coe_toFinset]
    exact List.count_pos_iff.mp (Nat.pos_of_ne_zero some)
  rw [finsum_eq_sum_of_support_subset _ support, ← Nat.cast_sum,
    List.sum_toFinset_count_eq_length]

/-- The counters of a field, counted anew from the tokens of all documents. -/
theorem Sound.fieldStatistics_eq (sound : index.Sound) (complete : index.Complete)
    (field : FieldId) : index.fieldStatistics field = {
      field := ((index.schema.get? field).map Field.name).getD ""
      maxDoc := index.maxDoc
      docCount := (index.docIds.countP fun doc => index.searchable doc field ≠ [] : Nat)
      sumTotalTermFreq := (index.docIds.map fun doc => (index.searchable doc field).length).sum
      sumDocFreq := (index.docIds.map fun doc =>
        ((index.searchable doc field).map Token.term).dedup.length).sum } := by
  unfold fieldStatistics
  cases present : index.fields[field]? with
  | none =>
    simp [sound.searchable_of_unregistered present]
  | some kept =>
    have agrees := sound.agrees field kept present
    have docs : kept.docCount = index.docIds.countP fun doc => index.searchable doc field ≠ [] := by
      rw [agrees.docCount_eq, sound.total_eq_sum complete present rfl, countP_eq_sum]
      refine congrArg List.sum (List.map_congr_left fun doc _ => ?_)
      rw [FieldIndex.docWeight, tokenTotal_groupByTerm]
      cases index.searchable doc field <;> rfl
    have tokens : kept.tokenCount =
        (index.docIds.map fun doc => (index.searchable doc field).length).sum := by
      rw [agrees.tokenCount_eq, sound.total_eq_sum complete present rfl]
      simp only [tokenTotal_groupByTerm]
    have terms : kept.termCount = (index.docIds.map fun doc =>
        ((index.searchable doc field).map Token.term).dedup.length).sum := by
      rw [agrees.termCount_eq, sound.total_eq_sum complete present rfl]
      simp only [length_groupByTerm]
    simp only [docs, tokens, terms]

/-- The counts of a field and of its terms are those of the tokens of all documents that are there,
and in the order that rarity relies on. -/
structure ExactStatistics (index : Index) (field : FieldId) : Prop where
  docCount_eq : (index.fieldStatistics field).docCount =
    (index.docIds.countP fun doc => index.searchable doc field ≠ [] : Nat)
  sumTotalTermFreq_eq : (index.fieldStatistics field).sumTotalTermFreq =
    (index.docIds.map fun doc => (index.searchable doc field).length).sum
  sumDocFreq_eq : (index.fieldStatistics field).sumDocFreq =
    (index.docIds.map fun doc => ((index.searchable doc field).map Token.term).dedup.length).sum
  /-- There is something to sum up for finitely many terms only. -/
  finite_terms : {term | (index.termStatistics field term).totalTermFreq ≠ 0}.Finite
  sumTotalTermFreq_eq_finsum : (index.fieldStatistics field).sumTotalTermFreq =
    ∑ᶠ term, (index.termStatistics field term).totalTermFreq
  sumDocFreq_eq_finsum : (index.fieldStatistics field).sumDocFreq =
    ∑ᶠ term, ((index.termStatistics field term).docFreq : Int)
  docFreq_le_docCount : ∀ term, (index.termStatistics field term).docFreq ≤
    (index.fieldStatistics field).docCount
  docCount_le : (index.fieldStatistics field).docCount ≤ index.docCount
  docCount_le_maxDoc : index.docCount ≤ index.maxDoc
  docFreq_le_totalTermFreq : ∀ term, (index.termStatistics field term).docFreq ≤
    (index.termStatistics field term).totalTermFreq
  totalTermFreq_le : ∀ term, (index.termStatistics field term).totalTermFreq ≤
    (index.fieldStatistics field).sumTotalTermFreq
  effectiveDocCount_eq : (index.fieldStatistics field).effectiveDocCount =
    (index.fieldStatistics field).docCount
  /-- What the logarithm is taken of is never below one. -/
  idf_eq : ∀ (similarity : Similarity) (term : Term),
    let docFreq := (index.termStatistics field term).docFreq
    let docCount := (index.fieldStatistics field).effectiveDocCount
    (1.0 ≤ similarity.share docFreq docCount ∧
      similarity.idf docFreq docCount = .ok (narrow (ln (similarity.share docFreq docCount) + 1.0))) ∨
    UInt64.size ≤ index.maxDoc + 2 ∧ similarity.idf docFreq docCount = .error .additionOverflow

/-- The terms of a field in all documents, each as often as it stands there. -/
def occurrences (index : Index) (field : FieldId) : List Term :=
  index.docIds.flatMap fun doc => (index.searchable doc field).map Token.term

/-- The terms of a field in all documents, each once for a document. -/
def memberships (index : Index) (field : FieldId) : List Term :=
  index.docIds.flatMap fun doc => ((index.searchable doc field).map Token.term).dedup

theorem length_occurrences (index : Index) (field : FieldId) : (index.occurrences field).length =
    (index.docIds.map fun doc => (index.searchable doc field).length).sum := by
  simp only [occurrences, List.length_flatMap, List.length_map]

theorem Sound.totalTermFreq_eq_count (sound : index.Sound) (complete : index.Complete)
    (field : FieldId) (term : Term) :
    (index.termStatistics field term).totalTermFreq = (index.occurrences field).count term := by
  rw [sound.totalTermFreq_eq complete, occurrences, List.count_flatMap]
  rfl

theorem Sound.docFreq_eq_count (sound : index.Sound) (complete : index.Complete)
    (field : FieldId) (term : Term) :
    (index.termStatistics field term).docFreq = (index.memberships field).count term := by
  rw [sound.docFreq_eq complete, countP_eq_sum, memberships, List.count_flatMap]
  refine congrArg List.sum (List.map_congr_left fun doc _ => ?_)
  rw [Function.comp_apply, List.count_dedup]
  split <;> simp [*]

theorem Sound.docFreq_le_docCount (sound : index.Sound) (complete : index.Complete)
    (field : FieldId) (term : Term) : ((index.termStatistics field term).docFreq : Int) ≤
      (index.fieldStatistics field).docCount := by
  rw [sound.fieldStatistics_eq complete, sound.docFreq_eq complete]
  refine Int.ofNat_le.mpr (List.countP_mono_left fun doc _ has => ?_)
  rw [decide_eq_true_iff] at has ⊢
  rintro none
  rw [none] at has
  cases has

/-- After a run the statistics of every field are exact. -/
theorem exactStatistics_of_run {similarity : Similarity} {operations : List Operation}
    (first : FieldsFirst similarity operations) (reached : run similarity operations = .ok index)
    (field : FieldId) : index.ExactStatistics field := by
  have sound : index.Sound := sound_of_run reached
  have complete : index.Complete := complete_of_run first reached
  have counts := sound.fieldStatistics_eq complete field
  have frequent := sound.totalTermFreq_eq_count complete field
  have spread := sound.docFreq_eq_count complete field
  have order := sound.docFreq_le_docCount complete field
  have effective := sound.effectiveDocCount_eq field
  constructor
  case docCount_eq => rw [counts]
  case sumTotalTermFreq_eq => rw [counts]
  case sumDocFreq_eq => rw [counts]
  case finite_terms =>
    refine (index.occurrences field).toFinset.finite_toSet.subset fun term some => ?_
    rw [Set.mem_ofPred_eq, frequent, Nat.cast_ne_zero] at some
    rw [List.coe_toFinset]
    exact List.count_pos_iff.mp (Nat.pos_of_ne_zero some)
  case sumTotalTermFreq_eq_finsum =>
    simp only [frequent, finsum_count, length_occurrences]
    rw [counts]
  case sumDocFreq_eq_finsum =>
    simp only [spread, finsum_count, memberships, List.length_flatMap]
    rw [counts]
  case docFreq_le_docCount => exact order
  case docCount_le =>
    rw [counts, docCount, ← Std.ExtTreeMap.length_keys]
    exact Int.ofNat_le.mpr List.countP_le_length
  case docCount_le_maxDoc => exact DocMap.size_le index.maxDoc sound.issued
  case docFreq_le_totalTermFreq =>
    intro term
    rw [frequent, spread, occurrences, memberships, List.count_flatMap, List.count_flatMap]
    exact Int.ofNat_le.mpr (List.sum_le_sum fun doc _ => (List.dedup_sublist _).count_le term)
  case totalTermFreq_le =>
    intro term
    rw [frequent, counts, ← length_occurrences]
    exact Int.ofNat_le.mpr List.count_le_length
  case effectiveDocCount_eq => exact effective
  case idf_eq =>
    intro similarity term
    have docFreq_le : (index.termStatistics field term).docFreq ≤
        (index.fieldStatistics field).effectiveDocCount := by
      have bound := order term
      omega
    have small : similarity.countOffset ≤ 2 := by cases similarity <;> decide
    have below := sound.effectiveDocCount_le field
    refine (similarity.idf_cases docFreq_le).imp_right fun ⟨overflow, failed⟩ => ⟨?_, failed⟩
    omega

theorem shelf_exactStatistics : ∃ index, run .smoothed shelf = .ok index ∧
    index.ExactStatistics 0 := by
  obtain ⟨index, reached, -⟩ := exists_run_shelf
  exact ⟨index, reached, exactStatistics_of_run (fieldsFirst_shelf .smoothed) reached 0⟩

end Index

end Relevance
