import Relevance.Proofs.Numeric.Single
import Relevance.Proofs.Query.Asked
import Relevance.Proofs.Query.Tree
import Relevance.Proofs.Text.Runs

set_option autoImplicit false

namespace Relevance

namespace QueryPart

/-- What is looked for at a time: each token of a word for itself, those of a phrase together. -/
def units (analyzer : Analyzer) : QueryPart → List (List Token)
  | .word text => (analyzer.tokens text).map fun token => [token]
  | .phrase text => [analyzer.tokens text].filter (· ≠ [])

theorem ne_nil_of_mem_units {analyzer : Analyzer} {part : QueryPart} {unit : List Token}
    (member : unit ∈ part.units analyzer) : unit ≠ [] := by
  cases part with
  | word text =>
    obtain ⟨token, -, rfl⟩ := List.mem_map.mp member
    exact List.cons_ne_nil _ _
  | phrase text => exact of_decide_eq_true (List.mem_filter.mp member).2

theorem units_eq_nil_iff {analyzer : Analyzer} {part : QueryPart} :
    part.units analyzer = [] ↔ part.tokens analyzer = [] := by
  cases part with
  | word text => exact List.map_eq_nil_iff
  | phrase text =>
    rw [units, List.filter_eq_nil_iff, List.forall_mem_singleton, decide_eq_true_eq, not_not, tokens,
      text_phrase]

end QueryPart

namespace SearchField

/-- A boost is written as a finite number above zero. -/
def IsBoost (text : List Char) (boost : Float32) : Prop :=
  readSingle? text = some boost ∧ boost.isFinite = true ∧ 0.0 < boost

/-- The name and the boost of a field as it is written: what stands in front of the first caret, and
what stands behind it if that is a boost. Otherwise the boost is one. -/
inductive Reads : List Char → List Char → Float32 → Prop
  | plain {name : List Char} (uncut : '^' ∉ name) : Reads name name 1.0
  | boosted {name suffix : List Char} {boost : Float32} (uncut : '^' ∉ name)
    (counts : IsBoost suffix boost) : Reads (name ++ '^' :: suffix) name boost
  | other {name suffix : List Char} (uncut : '^' ∉ name)
    (none : ∀ boost, ¬ IsBoost suffix boost) : Reads (name ++ '^' :: suffix) name 1.0

variable {text name suffix : List Char} {boost : Float32}

theorem boost?_eq_some_iff : boost? text = some boost ↔ IsBoost text boost := by
  rw [boost?, Option.filter_eq_some_iff, Bool.and_eq_true, decide_eq_true_eq, IsBoost]

theorem cut_at_caret (uncut : '^' ∉ name) (suffix : List Char) :
    (name ++ '^' :: suffix).takeWhile (· ≠ '^') = name ∧
      (name ++ '^' :: suffix).dropWhile (· ≠ '^') = '^' :: suffix := by
  refine span_append (fun c member => decide_eq_true ?_) (by simp)
  rintro rfl
  exact uncut member

theorem reads (text : String) :
    Reads text.toList (read text).name.toList (read text).boost := by
  change Reads text.toList (String.ofList _).toList ((boost? _).getD 1.0)
  rw [String.toList_ofList]
  generalize text.toList = text
  by_cases caret : '^' ∈ text
  · obtain ⟨name, suffix, rfl, uncut⟩ := List.eq_append_cons_of_mem caret
    rw [(cut_at_caret uncut suffix).1, List.drop_append, List.drop_of_length_le (Nat.le_succ _),
      List.nil_append, Nat.add_sub_cancel_left, List.drop_succ_cons, List.drop_zero]
    cases written : boost? suffix with
    | some boost => exact .boosted uncut (boost?_eq_some_iff.mp written)
    | none =>
      refine .other uncut fun boost counts => ?_
      rw [boost?_eq_some_iff.mpr counts] at written
      cases written
  · have whole : text.takeWhile (· ≠ '^') = text := by
      rw [List.takeWhile_eq_self_iff]
      rintro c member
      apply decide_eq_true
      rintro rfl
      exact caret member
    have nothing : boost? [] = none := by decide +kernel
    rw [whole, List.drop_of_length_le (Nat.le_succ _), nothing]
    exact .plain caret

theorem Reads.boost_cases (reads : Reads text name boost) :
    ('^' ∉ text ∧ name = text ∧ boost = 1.0) ∨
      ∃ suffix, text = name ++ '^' :: suffix ∧ '^' ∉ name ∧
        (IsBoost suffix boost ∨ (∀ boost, ¬ IsBoost suffix boost) ∧ boost = 1.0) := by
  cases reads with
  | plain uncut => exact Or.inl ⟨uncut, rfl, rfl⟩
  | boosted uncut counts => exact Or.inr ⟨_, rfl, uncut, Or.inl counts⟩
  | other uncut none => exact Or.inr ⟨_, rfl, uncut, Or.inr ⟨none, rfl⟩⟩

/-- A field is read in one way. -/
theorem Reads.unique {other : List Char} {factor : Float32} (first : Reads text name boost)
    (second : Reads text other factor) : name = other ∧ boost = factor := by
  rcases first.boost_cases with ⟨uncut, rfl, rfl⟩ | ⟨suffix, rfl, uncut, boosts⟩
  · rcases second.boost_cases with ⟨-, rfl, rfl⟩ | ⟨suffix, rfl, -⟩
    · exact ⟨rfl, rfl⟩
    · exact absurd (List.mem_append_right other List.mem_cons_self) uncut
  · rcases second.boost_cases with ⟨plain, -⟩ | ⟨tail, same, apart, factors⟩
    · exact absurd (List.mem_append_right name List.mem_cons_self) plain
    have front : name = other := by
      rw [← (cut_at_caret uncut suffix).1, same, (cut_at_caret apart tail).1]
    subst front
    obtain rfl : suffix = tail := List.cons_inj_right _ |>.mp (List.append_cancel_left same)
    refine ⟨rfl, ?_⟩
    rcases boosts with counts | ⟨none, rfl⟩ <;> rcases factors with others | ⟨nothing, rfl⟩
    · exact Option.some.inj (counts.1.symm.trans others.1)
    · exact absurd counts (nothing boost)
    · exact absurd others (none factor)
    · rfl

theorem Reads.eq_read {text : String} {field : SearchField}
    (reads : Reads text.toList field.name.toList field.boost) : field = read text := by
  obtain ⟨name, boost⟩ := reads.unique (SearchField.reads text)
  exact congrArg₂ mk (String.toList_inj.mp name) boost

/-- A boost counts, and so does the one that stands for none. -/
theorem Reads.counts (reads : Reads text name boost) : boost.isFinite = true ∧ 0.0 < boost := by
  have one : (1.0 : Float32).isFinite = true ∧ (0.0 : Float32) < 1.0 :=
    ⟨by decide +kernel, by decide +kernel⟩
  cases reads with
  | plain => exact one
  | boosted _ counts => exact counts.2
  | other => exact one

end SearchField

namespace Query

/-- Only terms, phrases, and disjunctions of at least two of all these. -/
inductive Trim : Query → Prop
  | term (field : String) (wanted : Term) (boost : Float32) : Trim (.term field wanted boost)
  | phrase (field : String) (tokens : List Token) (slop : UInt32) (boost : Float32) :
    Trim (.phrase field tokens slop boost)
  | disjunction {queries : List Query} (several : 2 ≤ queries.length)
    (each : ∀ query ∈ queries, Trim query) : Trim (.disjunction queries)

theorem Trim.ne_matchNone {query : Query} (trim : query.Trim) : query ≠ .matchNone := by
  rintro rfl
  cases trim

theorem trim_any {queries : List Query} (some : queries ≠ [])
    (each : ∀ query ∈ queries, query.Trim) : (any queries).Trim := by
  match queries with
  | [] => exact absurd rfl some
  | [query] => exact each query List.mem_cons_self
  | first :: second :: rest => exact .disjunction (Nat.le_add_left 2 _) each

theorem any_eq_matchNone_iff {queries : List Query} (each : ∀ query ∈ queries, query.Trim) :
    any queries = .matchNone ↔ queries = [] := by
  constructor
  · intro none
    by_contra some
    exact (trim_any some each).ne_matchNone none
  · rintro rfl
    rfl

def isLeaf : Query → Bool
  | .term .. | .phrase .. => true
  | _ => false

/-- The terms and phrases of a query, from left to right. -/
def leaves (query : Query) : List Query :=
  query.subqueries.filter isLeaf

theorem filter_subqueriesAll (queries : List Query) :
    (subqueriesAll queries).filter isLeaf = queries.flatMap leaves := by
  induction queries with
  | nil => rfl
  | cons query rest ih => rw [subqueriesAll, List.filter_append, ih, List.flatMap_cons, leaves]

theorem leaves_conjunction (queries : List Query) :
    (conjunction queries).leaves = queries.flatMap leaves := by
  rw [leaves, subqueries, List.filter_cons_of_neg (Bool.false_ne_true), filter_subqueriesAll]

theorem leaves_disjunction (queries : List Query) :
    (disjunction queries).leaves = queries.flatMap leaves := by
  rw [leaves, subqueries, List.filter_cons_of_neg (Bool.false_ne_true), filter_subqueriesAll]

theorem leaves_any (queries : List Query) : (any queries).leaves = queries.flatMap leaves := by
  match queries with
  | [] => rfl
  | [query] => rw [any, List.flatMap_singleton]
  | first :: second :: rest => exact leaves_disjunction _

/-- The query for a unit in a field: a term for one token, and a phrase for several. -/
def leaf (field : String) (boost : Float32) : List Token → Query
  | [token] => .term field token.term boost
  | tokens => .phrase field tokens 0 boost

theorem trim_leaf (field : String) (boost : Float32) (tokens : List Token) :
    (leaf field boost tokens).Trim := by
  match tokens with
  | [] => exact .phrase ..
  | [token] => exact .term ..
  | first :: second :: rest => exact .phrase ..

theorem leaves_leaf (field : String) (boost : Float32) (tokens : List Token) :
    (leaf field boost tokens).leaves = [leaf field boost tokens] := by
  match tokens with
  | [] => rfl
  | [token] => rfl
  | first :: second :: rest => rfl

/-- A query for tokens that is boosted once has that boost. -/
theorem boost_ofTokens (field : String) (factor : Float32) {tokens : List Token}
    (some : tokens ≠ []) : (ofTokens field tokens 0).boost factor = leaf field factor tokens := by
  have plain : ofTokens field tokens 0 = leaf field 1.0 tokens := by
    match tokens with
    | [] => exact absurd rfl some
    | [token] => rfl
    | first :: second :: rest => rfl
  rw [boost, plain]
  split
  · rename_i one
    rw [Single.eq_one_of_beq one]
  · match tokens with
    | [] => exact absurd rfl some
    | [token] => rw [leaf, scaleBoost, Single.one_mul, leaf]
    | first :: second :: rest =>
      change Query.phrase field (first :: second :: rest) 0 (1.0 * factor) = _
      rw [Single.one_mul]
      rfl

variable {fields : List SearchField} {analyzer : Analyzer}

theorem inFields_ofTokens {tokens : List Token} (some : tokens ≠ []) :
    inFields fields (fun field => ofTokens field tokens 0) =
      any (fields.map fun field => leaf field.name field.boost tokens) := by
  rw [inFields]
  congr 1
  exact List.map_congr_left fun field _ => boost_ofTokens field.name field.boost some

def leavesFor (fields : List SearchField) (tokens : List Token) : List Query :=
  fields.map fun field => leaf field.name field.boost tokens

/-- Each unit of a part is looked for in every field. -/
theorem ofPart_eq_map (part : QueryPart) :
    ofPart fields (part.tokens analyzer) part =
      (part.units analyzer).map fun tokens => any (leavesFor fields tokens) := by
  cases part with
  | word text =>
    rw [ofPart, QueryPart.units, List.map_map]
    exact List.map_congr_left fun token _ => inFields_ofTokens (List.cons_ne_nil token [])
  | phrase text =>
    rw [QueryPart.tokens, QueryPart.text_phrase, QueryPart.units]
    cases analyzer.tokens text with
    | nil => rfl
    | cons head rest =>
      have some : head :: rest ≠ [] := List.cons_ne_nil head rest
      have kept : [head :: rest].filter (· ≠ []) = [head :: rest] :=
        List.filter_cons_of_pos (decide_eq_true some)
      rw [kept, List.map_singleton, leavesFor, ← inFields_ofTokens some]
      rfl

def unitsOf (analyzer : Analyzer) (text : String) : List (List Token) :=
  (QueryPart.scan text.toList).flatMap (·.units analyzer)

theorem unitsOf_eq_nil_iff {text : String} : unitsOf analyzer text = [] ↔
    ∀ part ∈ QueryPart.scan text.toList, part.tokens analyzer = [] := by
  rw [unitsOf, List.flatMap_eq_nil_iff]
  exact forall₂_congr fun part _ => QueryPart.units_eq_nil_iff

theorem asked_eq_any (text : String) (fields : List String) (analyzer : Analyzer) :
    asked text fields analyzer = any ((unitsOf analyzer text).map fun tokens =>
      any (leavesFor (fields.map SearchField.read) tokens)) := by
  rw [asked, unitsOf, List.map_flatMap]
  congr 1
  exact List.flatMap_congr fun part _ => ofPart_eq_map part

/-- A leaf is a term or a phrase of several tokens, with the boost of its field. -/
theorem leaf_of_mem_leavesFor {tokens : List Token} (some : tokens ≠ []) {query : Query}
    (member : query ∈ leavesFor fields tokens) : ∃ field ∈ fields,
      (∃ wanted, query = .term field.name wanted field.boost) ∨
        ∃ tokens, 2 ≤ tokens.length ∧ query = .phrase field.name tokens 0 field.boost := by
  obtain ⟨field, searched, rfl⟩ := List.mem_map.mp member
  refine ⟨field, searched, ?_⟩
  match tokens with
  | [] => exact absurd rfl some
  | [token] => exact Or.inl ⟨token.term, rfl⟩
  | first :: second :: rest => exact Or.inr ⟨_, Nat.le_add_left 2 _, rfl⟩

theorem leaves_any_leavesFor (fields : List SearchField) (tokens : List Token) :
    (any (leavesFor fields tokens)).leaves = leavesFor fields tokens := by
  rw [leaves_any, leavesFor, List.flatMap_map, List.map_eq_flatMap]
  exact List.flatMap_congr fun field _ => leaves_leaf _ _ _

theorem trim_any_leavesFor (some : fields ≠ []) (tokens : List Token) :
    (any (leavesFor fields tokens)).Trim := by
  apply trim_any
  · intro none
    exact some (List.map_eq_nil_iff.mp none)
  · intro query member
    obtain ⟨field, -, rfl⟩ := List.mem_map.mp member
    exact trim_leaf _ _ _

end Query

end Relevance
