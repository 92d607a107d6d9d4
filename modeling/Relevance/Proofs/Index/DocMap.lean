import Mathlib.Algebra.GroupWithZero.Nat
import Mathlib.Algebra.Order.BigOperators.Group.List
import Mathlib.Algebra.Order.Group.Nat
import Mathlib.Data.List.Perm.Subperm
import Mathlib.Data.List.Range
import Relevance.Index.FieldIndex

set_option autoImplicit false

namespace Relevance

abbrev DocMap (β : Type) := Std.ExtTreeMap DocId β

namespace DocMap

variable {β : Type} {map : DocMap β} {doc : DocId} {value : β}

theorem getElem?_erase_of_ne {other : DocId} (differs : doc ≠ other) :
    (map.erase doc)[other]? = map[other]? := by
  rw [Std.ExtTreeMap.getElem?_erase, if_neg (mt Std.LawfulEqCmp.compare_eq_iff_eq.mp differs)]

theorem getElem?_erase_eq_some {other : DocId} (present : (map.erase doc)[other]? = some value) :
    doc ≠ other ∧ map[other]? = some value := by
  rw [Std.ExtTreeMap.getElem?_erase] at present
  split at present
  · cases present
  · rename_i differs
    exact ⟨fun same => differs (Std.LawfulEqCmp.compare_eq_iff_eq.mpr same), present⟩

theorem getElem?_insert_of_ne {other : DocId} (differs : doc ≠ other) :
    (map.insert doc value)[other]? = map[other]? := by
  rw [Std.ExtTreeMap.getElem?_insert, if_neg (mt Std.LawfulEqCmp.compare_eq_iff_eq.mp differs)]

theorem getElem?_insert_eq_some {other : DocId} {kept : β}
    (present : (map.insert doc value)[other]? = some kept) :
    (other = doc ∧ kept = value) ∨ (doc ≠ other ∧ map[other]? = some kept) := by
  rw [Std.ExtTreeMap.getElem?_insert] at present
  split at present
  · rename_i same
    cases present
    exact Or.inl ⟨(Std.LawfulEqCmp.compare_eq_iff_eq.mp same).symm, rfl⟩
  · rename_i differs
    exact Or.inr ⟨fun same => differs (Std.LawfulEqCmp.compare_eq_iff_eq.mpr same), present⟩

theorem nodup_toList (map : DocMap β) : map.toList.Nodup :=
  Std.ExtTreeMap.distinct_keys_toList.imp fun apart same => by
    rw [same] at apart
    exact apart Std.ReflCmp.compare_self

theorem toList_insert_perm (absent : map[doc]? = none) :
    (map.insert doc value).toList.Perm ((doc, value) :: map.toList) := by
  have outside : (doc, value) ∉ map.toList := by
    rw [Std.ExtTreeMap.mem_toList_iff_getElem?_eq_some, absent]
    exact nofun
  refine (List.perm_ext_iff_of_nodup (nodup_toList _)
    (List.nodup_cons.mpr ⟨outside, nodup_toList _⟩)).mpr ?_
  rintro ⟨other, kept⟩
  rw [List.mem_cons, Std.ExtTreeMap.mem_toList_iff_getElem?_eq_some,
    Std.ExtTreeMap.mem_toList_iff_getElem?_eq_some, Std.ExtTreeMap.getElem?_insert, Prod.mk.injEq]
  by_cases same : doc = other
  · subst same
    simp [absent, eq_comm]
  · simp [same, Ne.symm same]

theorem toList_perm_erase (present : map[doc]? = some value) :
    map.toList.Perm ((doc, value) :: (map.erase doc).toList) := by
  have absent : (map.erase doc)[doc]? = none := Std.ExtTreeMap.getElem?_erase_self
  have restored : (map.erase doc).insert doc value = map := by
    refine Std.ExtTreeMap.ext_getElem? fun {other} => ?_
    rw [Std.ExtTreeMap.getElem?_insert, Std.ExtTreeMap.getElem?_erase]
    by_cases same : doc = other
    · subst same
      simp [present]
    · simp [same]
  have split : ((map.erase doc).insert doc value).toList.Perm
      ((doc, value) :: (map.erase doc).toList) := toList_insert_perm absent
  rwa [restored] at split

def total (map : DocMap β) (weight : β → Nat) : Nat :=
  (map.toList.map fun entry => weight entry.2).sum

@[simp] theorem total_empty (weight : β → Nat) : total (∅ : DocMap β) weight = 0 := rfl

theorem total_insert (absent : map[doc]? = none) (weight : β → Nat) :
    total (map.insert doc value) weight = total map weight + weight value := by
  rw [total, ((toList_insert_perm absent).map _).sum_eq, List.map_cons, List.sum_cons,
    Nat.add_comm, total]

theorem total_erase (present : map[doc]? = some value) (weight : β → Nat) :
    total (map.erase doc) weight + weight value = total map weight := by
  rw [total, total, ((toList_perm_erase present).map _).sum_eq, List.map_cons, List.sum_cons,
    Nat.add_comm]

theorem le_total (present : map[doc]? = some value) (weight : β → Nat) :
    weight value ≤ total map weight := by
  have split := total_erase present weight
  omega

/-- At most `bound` documents have numbers below `bound`. -/
theorem size_le (bound : Nat) (below : ∀ doc value, map[doc]? = some value → doc < bound) :
    map.size ≤ bound := by
  have inside : map.keys ⊆ List.range bound := by
    intro doc member
    obtain ⟨value, present⟩ := Option.isSome_iff_exists.mp
      (Std.ExtTreeMap.mem_iff_isSome_getElem?.mp (Std.ExtTreeMap.mem_keys.mp member))
    exact List.mem_range.mpr (below doc value present)
  have shorter := (Std.ExtTreeMap.nodup_keys.subperm inside).length_le
  simpa only [Std.ExtTreeMap.length_keys, List.length_range] using shorter

/-- A weight of at most one sums up to no more than the number of documents. -/
theorem total_le_size (weight : β → Nat) (small : ∀ value, weight value ≤ 1) :
    total map weight ≤ map.size := by
  have bound : total map weight ≤ (map.toList.map fun _ => 1).sum :=
    List.sum_le_sum fun entry _ => small entry.2
  simpa using bound

end DocMap

theorem DocSet.nodup_toList (docs : DocSet) : docs.toList.Nodup :=
  Std.ExtTreeSet.distinct_toList.imp fun apart same => by
    rw [same] at apart
    exact apart Std.ReflCmp.compare_self

/-- At most `bound` documents have numbers below `bound`. -/
theorem DocSet.size_le {docs : DocSet} (bound : Nat) (below : ∀ doc ∈ docs, doc < bound) :
    docs.size ≤ bound := by
  have inside : docs.toList ⊆ List.range bound := by
    intro doc member
    exact List.mem_range.mpr (below doc (Std.ExtTreeSet.mem_toList.mp member))
  have shorter := (docs.nodup_toList.subperm inside).length_le
  simpa only [Std.ExtTreeSet.length_toList, List.length_range] using shorter

end Relevance
