import Mathlib.Data.List.Forall2
import Relevance.Fault

set_option autoImplicit false

namespace Relevance.Fault

variable {α β : Type}

@[simp] theorem pure_eq_ok (value : α) : (pure value : Except Fault α) = .ok value := rfl

@[simp] theorem ok_bind (value : α) (next : α → Except Fault β) :
    (Except.ok value >>= next) = next value := rfl

@[simp] theorem error_bind (reason : Fault) (next : α → Except Fault β) :
    ((Except.error reason : Except Fault α) >>= next) = .error reason := rfl

@[simp] theorem map_ok (change : α → β) (value : α) :
    (change <$> (Except.ok value : Except Fault α)) = .ok (change value) := rfl

theorem bind_eq_ok_iff {first : Except Fault α} {next : α → Except Fault β} {result : β} :
    first >>= next = .ok result ↔ ∃ value, first = .ok value ∧ next value = .ok result := by
  cases first with
  | error reason => simp
  | ok value => simp

theorem bind_eq_error_iff {first : Except Fault α} {next : α → Except Fault β} {reason : Fault} :
    first >>= next = .error reason ↔
      first = .error reason ∨ ∃ value, first = .ok value ∧ next value = .error reason := by
  cases first with
  | error reason => simp
  | ok value => simp

theorem map_eq_ok_iff {change : α → β} {first : Except Fault α} {result : β} :
    change <$> first = .ok result ↔ ∃ value, first = .ok value ∧ change value = result := by
  cases first with
  | error reason => simp [Functor.map, Except.map]
  | ok value => simp

theorem checkedAdd_eq_ok_iff {a b sum : Nat} :
    checkedAdd a b = .ok sum ↔ a + b < UInt64.size ∧ sum = a + b := by
  unfold checkedAdd
  split
  · rename_i inside
    simp only [Except.ok.injEq, inside, true_and, eq_comm]
  · rename_i outside
    simp only [reduceCtorEq, outside, false_and]

theorem checkedAdd_eq_error_iff {a b : Nat} {reason : Fault} :
    checkedAdd a b = .error reason ↔ UInt64.size ≤ a + b ∧ reason = .additionOverflow := by
  unfold checkedAdd
  split
  · rename_i inside
    simp only [reduceCtorEq, Nat.not_le.mpr inside, false_and]
  · rename_i outside
    simp only [Except.error.injEq, Nat.le_of_not_lt outside, true_and, eq_comm]

theorem checkedSub_eq_ok_iff {a b difference : Nat} :
    checkedSub a b = .ok difference ↔ b ≤ a ∧ difference = a - b := by
  unfold checkedSub
  split
  · rename_i inside
    simp only [Except.ok.injEq, inside, true_and, eq_comm]
  · rename_i outside
    simp only [reduceCtorEq, outside, false_and]

/-- A list is gone through to its end if no member of it is a fault. -/
theorem mapM_eq_ok {items : List α} {step : α → Except Fault β} {value : α → β}
    (each : ∀ item ∈ items, step item = .ok (value item)) :
    items.mapM step = .ok (items.map value) := by
  induction items with
  | nil => rfl
  | cons first rest ih =>
    rw [List.mapM_cons, each first List.mem_cons_self,
      ih fun item later => each item (List.mem_cons_of_mem _ later)]
    rfl

theorem filterMapM_eq_ok {items : List α} {step : α → Except Fault (Option β)}
    {value : α → Option β} (each : ∀ item ∈ items, step item = .ok (value item)) :
    items.filterMapM step = .ok (items.filterMap value) := by
  induction items with
  | nil => rfl
  | cons first rest ih =>
    rw [List.filterMapM_cons, each first List.mem_cons_self,
      ih fun item later => each item (List.mem_cons_of_mem _ later), List.filterMap_cons]
    cases value first <;> rfl

/-- Whatever a list is gone through for was made of one of its members. -/
theorem exists_of_mapM_eq_ok {items : List α} {step : α → Except Fault β} {values : List β}
    (success : items.mapM step = .ok values) {value : β} (member : value ∈ values) :
    ∃ item ∈ items, step item = .ok value := by
  induction items generalizing values with
  | nil =>
    cases success
    cases member
  | cons first rest ih =>
    rw [List.mapM_cons, bind_eq_ok_iff] at success
    obtain ⟨head, made, success⟩ := success
    obtain ⟨tail, others, done⟩ := bind_eq_ok_iff.mp success
    cases done
    rcases List.mem_cons.mp member with rfl | later
    · exact ⟨first, List.mem_cons_self, made⟩
    · obtain ⟨item, inside, reached⟩ := ih others later
      exact ⟨item, List.mem_cons_of_mem _ inside, reached⟩

/-- What a list is gone through for is made of its members one by one. -/
theorem forall₂_of_mapM_eq_ok {items : List α} {step : α → Except Fault β} {values : List β}
    (success : items.mapM step = .ok values) :
    List.Forall₂ (fun item value => step item = .ok value) items values := by
  induction items generalizing values with
  | nil =>
    cases success
    exact .nil
  | cons first rest ih =>
    rw [List.mapM_cons, bind_eq_ok_iff] at success
    obtain ⟨value, made, others⟩ := success
    rw [bind_eq_ok_iff] at others
    obtain ⟨later, mapped, done⟩ := others
    cases done
    exact .cons made (ih mapped)

theorem exists_of_mem_of_mapM_eq_ok {items : List α} {step : α → Except Fault β} {values : List β}
    (success : items.mapM step = .ok values) {item : α} (member : item ∈ items) :
    ∃ value, step item = .ok value := by
  have made := forall₂_of_mapM_eq_ok success
  clear success
  induction made with
  | nil => cases member
  | cons first _ ih =>
    rcases List.mem_cons.mp member with rfl | later
    · exact ⟨_, first⟩
    · exact ih later

theorem length_of_mapM_eq_ok {items : List α} {step : α → Except Fault β} {values : List β}
    (success : items.mapM step = .ok values) : values.length = items.length :=
  (forall₂_of_mapM_eq_ok success).length_eq.symm

theorem mapM_eq_error {items : List α} {step : α → Except Fault β} {reason : Fault}
    (failure : items.mapM step = .error reason) : ∃ item ∈ items, step item = .error reason := by
  induction items with
  | nil => cases failure
  | cons first rest ih =>
    rw [List.mapM_cons, bind_eq_error_iff] at failure
    rcases failure with failed | ⟨value, -, failure⟩
    · exact ⟨first, List.mem_cons_self, failed⟩
    rw [bind_eq_error_iff] at failure
    rcases failure with failed | ⟨values, -, failed⟩
    · obtain ⟨item, member, reached⟩ := ih failed
      exact ⟨item, List.mem_cons_of_mem _ member, reached⟩
    · cases failed

/-- If each step takes related states to related states, a sequence of steps does so too. -/
theorem foldlM_simulates {σ τ γ : Type} {related : σ → τ → Prop} {step : σ → α → Except Fault σ}
    {twin : τ → γ → Except Fault τ} {items : List α} {others : List γ}
    (each : List.Forall₂ (fun item other => ∀ state pair, related state pair → ∀ next,
      step state item = .ok next → ∃ later, twin pair other = .ok later ∧ related next later)
      items others)
    {state next : σ} {pair : τ} (start : related state pair)
    (success : items.foldlM step state = .ok next) :
    ∃ later, others.foldlM twin pair = .ok later ∧ related next later := by
  induction each generalizing state pair with
  | nil =>
    cases success
    exact ⟨pair, rfl, start⟩
  | cons first _ ih =>
    rw [List.foldlM_cons, bind_eq_ok_iff] at success
    obtain ⟨middle, taken, success⟩ := success
    obtain ⟨passed, twinned, relates⟩ := first state pair start middle taken
    rw [List.foldlM_cons, twinned, ok_bind]
    exact ih relates success

end Relevance.Fault
