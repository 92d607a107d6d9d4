import Mathlib.Data.String.Basic
import Mathlib.Tactic.Choose
import Relevance.Files.Disk

set_option autoImplicit false

namespace Relevance

/-- A name that an entry of a directory can have. -/
def IsEntryName (name : String) : Prop :=
  name ≠ "" ∧ '/' ∉ name.toList

instance (name : String) : Decidable (IsEntryName name) :=
  inferInstanceAs (Decidable (_ ∧ _))

def pathTo (root : String) (place : Place) : String :=
  place.foldl entryPath root

namespace FileTree

/-- A tree whose directories can be listed. Each entry is there once, in whatever order. -/
inductive Listed : FileTree → Prop
  | file (bytes : List UInt8) : Listed (.file bytes)
  | unreadable (error : FileError) : Listed (.unreadable error)
  | directory {entries : List (String × FileTree)} (distinct : (entries.map Prod.fst).Nodup)
    (named : ∀ entry ∈ entries, IsEntryName entry.1)
    (below : ∀ entry ∈ entries, entry.2.Listed) : Listed (.directory entries)

/-- There is a file with these bytes at a place of a tree. -/
inductive Holds : FileTree → Place → List UInt8 → Prop
  | file (bytes : List UInt8) : Holds (.file bytes) [] bytes
  | entry {entries : List (String × FileTree)} {name : String} {tree : FileTree} {place : Place}
    {bytes : List UInt8} (member : (name, tree) ∈ entries) (below : tree.Holds place bytes) :
    Holds (.directory entries) (name :: place) bytes

/-- These are the files of a tree in the order of their places. -/
structure HasFiles (tree : FileTree) (files : List (Place × List UInt8)) : Prop where
  ascending : files.Pairwise (·.1 < ·.1)
  mem_iff : ∀ place bytes, (place, bytes) ∈ files ↔ tree.Holds place bytes

theorem walkEntries_eq_map (path : String) (entries : List (String × FileTree)) :
    walkEntries path entries =
      entries.map fun entry => (entry.1, entry.2.walk (entryPath path entry.1)) := by
  induction entries with
  | nil => rfl
  | cons entry rest ih => rw [walkEntries, ih, List.map_cons]

/-- The entries of a directory in the order of their names. -/
def sorted (entries : List (String × FileTree)) : List (String × FileTree) :=
  entries.mergeSort fun a b => decide (a.1 ≤ b.1)

theorem mem_sorted {entries : List (String × FileTree)} {entry : String × FileTree} :
    entry ∈ sorted entries ↔ entry ∈ entries :=
  List.mem_mergeSort

theorem sorted_ascending {entries : List (String × FileTree)}
    (distinct : (entries.map Prod.fst).Nodup) :
    (sorted entries).Pairwise fun a b => a.1 < b.1 := by
  have ordered : (sorted entries).Pairwise fun a b => decide (a.1 ≤ b.1) = true := by
    refine List.pairwise_mergeSort (fun a b c first second => ?_) (fun a b => ?_) entries
    · exact decide_eq_true (le_trans (of_decide_eq_true first) (of_decide_eq_true second))
    · rw [Bool.or_eq_true, decide_eq_true_iff, decide_eq_true_iff]
      exact le_total a.1 b.1
  have apart : (sorted entries).Pairwise fun a b => a.1 ≠ b.1 := by
    refine List.pairwise_map.mp (List.Perm.nodup ?_ distinct)
    exact (List.mergeSort_perm entries _).symm.map Prod.fst
  exact ordered.imp₂ (fun a b least differ => lt_of_le_of_ne (of_decide_eq_true least) differ) apart

/-- A directory is gone through entry by entry. -/
theorem walk_directory (path : String) (entries : List (String × FileTree)) :
    (directory entries).walk path =
      (sorted entries).flatMap fun entry => entry.2.walk (entryPath path entry.1) := by
  have carried : (sorted entries).map
      (fun entry => (entry.1, entry.2.walk (entryPath path entry.1))) =
        (walkEntries path entries).mergeSort fun a b => decide (a.1 ≤ b.1) := by
    rw [walkEntries_eq_map]
    exact List.map_mergeSort fun _ _ _ _ => rfl
  rw [walk, ← carried, List.flatMap_map]

/-- The files of the entries, one entry after another, are the files of the directory. -/
theorem hasFiles_directory {entries : List (String × FileTree)}
    (distinct : (entries.map Prod.fst).Nodup)
    {files : String × FileTree → List (Place × List UInt8)}
    (each : ∀ entry ∈ entries, entry.2.HasFiles (files entry)) :
    (directory entries).HasFiles ((sorted entries).flatMap fun entry =>
      (files entry).map fun file => (entry.1 :: file.1, file.2)) where
  ascending := by
    refine List.pairwise_flatMap.mpr ⟨fun entry member => ?_, ?_⟩
    · refine List.pairwise_map.mpr ((each entry (mem_sorted.mp member)).ascending.imp ?_)
      exact fun before => List.cons_lt_cons_iff.mpr (Or.inr ⟨rfl, before⟩)
    · refine (sorted_ascending distinct).imp fun before first there second here => ?_
      obtain ⟨_, -, rfl⟩ := List.mem_map.mp there
      obtain ⟨_, -, rfl⟩ := List.mem_map.mp here
      exact List.cons_lt_cons_iff.mpr (Or.inl before)
  mem_iff place bytes := by
    simp only [List.mem_flatMap, mem_sorted, List.mem_map]
    constructor
    · rintro ⟨⟨name, tree⟩, member, ⟨place, bytes⟩, found, same⟩
      cases same
      exact .entry member (((each _ member).mem_iff place bytes).mp found)
    · intro holds
      cases holds with
      | @entry _ name tree place _ member below =>
        have found := ((each _ member).mem_iff place bytes).mpr below
        exact ⟨(name, tree), member, (place, bytes), found, rfl⟩

/-- The way through a tree comes past its files in their order, whatever the path to the tree. -/
theorem Listed.exists_hasFiles {tree : FileTree} (listed : tree.Listed) :
    ∃ files, tree.HasFiles files ∧
      ∀ root, tree.walk root = files.map fun file => (pathTo root file.1, .ok file.2) := by
  induction listed with
  | file bytes =>
    refine ⟨[([], bytes)], ⟨List.pairwise_singleton _ _, fun place found => ?_⟩, fun root => ?_⟩
    · rw [List.mem_singleton]
      constructor
      · rintro same
        cases same
        exact .file bytes
      · intro holds
        cases holds
        rfl
    · rw [walk]
      rfl
  | unreadable error =>
    refine ⟨[], ⟨List.Pairwise.nil, fun place found => ⟨nofun, nofun⟩⟩, fun root => ?_⟩
    rw [walk, List.map_nil]
  | @directory entries distinct _ _ ih =>
    choose! files each walks using ih
    refine ⟨_, hasFiles_directory distinct each, fun root => ?_⟩
    rw [walk_directory, List.map_flatMap]
    refine List.flatMap_congr fun entry member => ?_
    rw [walks entry (mem_sorted.mp member), List.map_map]
    rfl

theorem HasFiles.nodup {tree : FileTree} {files : List (Place × List UInt8)}
    (has : tree.HasFiles files) : files.Nodup := by
  refine has.ascending.imp ?_
  rintro file _ before rfl
  exact lt_irrefl file.1 before

/-- The files of a tree are in this order and no other. -/
theorem HasFiles.eq {tree : FileTree} {files others : List (Place × List UInt8)}
    (has : tree.HasFiles files) (again : tree.HasFiles others) : files = others := by
  refine List.Perm.eq_of_pairwise (fun first second _ _ before after => ?_) has.ascending
    again.ascending ((List.perm_ext_iff_of_nodup has.nodup again.nodup).mpr ?_)
  · exact absurd after (lt_asymm before)
  · rintro ⟨place, bytes⟩
    rw [has.mem_iff, again.mem_iff]

/-- The places of files are made of names of entries. -/
theorem Holds.isEntryName {tree : FileTree} {place : Place} {bytes : List UInt8}
    (holds : tree.Holds place bytes) (listed : tree.Listed) : ∀ name ∈ place, IsEntryName name := by
  induction holds with
  | file bytes => exact nofun
  | @entry entries name tree place bytes member below ih =>
    cases listed with
    | directory distinct named listed =>
      exact List.forall_mem_cons.mpr ⟨named (name, tree) member, ih (listed (name, tree) member)⟩

end FileTree

/-- The characters of a path without the slash at its end. -/
def stem (path : String) : List Char :=
  if path.toList.getLast? = some '/' then path.toList.dropLast else path.toList

theorem toList_entryPath (path name : String) :
    (entryPath path name).toList = stem path ++ '/' :: name.toList := by
  rw [entryPath, stem]
  split
  · rename_i slash
    rw [String.toList_append, ← List.dropLast_append_getLast? '/' slash, List.append_assoc,
      List.dropLast_concat]
    rfl
  · simp only [String.toList_append, List.append_assoc]
    rfl

/-- No path to an entry ends in a slash. -/
theorem stem_entryPath (path : String) {name : String} (named : IsEntryName name) :
    stem (entryPath path name) = (entryPath path name).toList := by
  obtain ⟨some, plain⟩ := named
  refine if_neg fun slash => plain ?_
  have filled : name.toList ≠ [] := fun empty => some (String.toList_eq_nil_iff.mp empty)
  rw [toList_entryPath, List.append_cons, List.getLast?_append_of_ne_nil _ filled] at slash
  exact List.mem_of_getLast? slash

theorem toList_pathTo (root name : String) (rest : Place)
    (named : ∀ part ∈ name :: rest, IsEntryName part) :
    (pathTo root (name :: rest)).toList =
      stem root ++ '/' :: ['/'].intercalate ((name :: rest).map String.toList) := by
  induction rest generalizing root name with
  | nil =>
    rw [pathTo, List.foldl_cons, List.foldl_nil, toList_entryPath]
    simp
  | cons next rest ih =>
    obtain ⟨own, others⟩ := List.forall_mem_cons.mp named
    have onward : pathTo root (name :: next :: rest) =
      pathTo (entryPath root name) (next :: rest) := rfl
    rw [onward, ih _ next others, stem_entryPath root own, toList_entryPath]
    simp

/-- Different places below a path have different paths. -/
theorem eq_of_pathTo_eq {root : String} {place other : Place} (inside : place ≠ [])
    (within : other ≠ []) (named : ∀ name ∈ place, IsEntryName name)
    (valid : ∀ name ∈ other, IsEntryName name) (same : pathTo root place = pathTo root other) :
    place = other := by
  have split {place : Place} (inside : place ≠ []) (named : ∀ name ∈ place, IsEntryName name) :
      (['/'].intercalate (place.map String.toList)).splitOn '/' = place.map String.toList := by
    refine List.splitOn_intercalate '/' (List.forall_mem_map.mpr fun name member => ?_)
      (mt List.map_eq_nil_iff.mp inside)
    exact (named name member).2
  have characters := congrArg String.toList same
  obtain ⟨name, rest, rfl⟩ := List.exists_cons_of_ne_nil inside
  obtain ⟨first, others, rfl⟩ := List.exists_cons_of_ne_nil within
  rw [toList_pathTo root name rest named, toList_pathTo root first others valid] at characters
  have parts := (List.cons.inj (List.append_cancel_left characters)).2
  have names := congrArg (List.splitOn '/') parts
  rw [split inside named, split within valid] at names
  exact List.map_injective_iff.mpr (fun _ _ => String.toList_injective) names

/-- Different files in a directory have different paths. -/
theorem FileTree.HasFiles.nodup_paths {entries : List (String × FileTree)}
    {files : List (Place × List UInt8)} (listed : (directory entries).Listed)
    (has : (directory entries).HasFiles files) (root : String) :
    (files.map fun file => pathTo root file.1).Nodup := by
  have below {file : Place × List UInt8} (member : file ∈ files) :
      file.1 ≠ [] ∧ ∀ name ∈ file.1, IsEntryName name := by
    have holds := (has.mem_iff file.1 file.2).mp member
    refine ⟨fun empty => ?_, holds.isEntryName listed⟩
    rw [empty] at holds
    cases holds
  refine List.pairwise_map.mpr (has.ascending.imp_of_mem fun first second before same => ?_)
  obtain ⟨inside, named⟩ := below first
  obtain ⟨within, valid⟩ := below second
  exact before.ne (eq_of_pathTo_eq inside within named valid same)

end Relevance
