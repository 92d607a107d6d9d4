import Relevance.Proofs.Files.Walk
import Relevance.Proofs.Index.Filling
import Relevance.Proofs.Site.Indexing

set_option autoImplicit false

namespace Relevance

open FileTree

/-- The markup in a file below a path, under the path of the file. -/
def pageOfFile (root : String) (file : Place × List UInt8) : Path × String :=
  (.ofString (pathTo root file.1), .ofList (Utf8.decodeLossy file.2))

@[simp] theorem display_pageOfFile (root : String) (file : Place × List UInt8) :
    (pageOfFile root file).1.display = pathTo root file.1 :=
  Path.display_ofString _

namespace Site

/-- An index has the pages of these files, numbered in their order, and no others. -/
structure HasPages (site : Site) (root : String) (files : List (Place × List UInt8))
    (index : Index) : Prop where
  docCount_eq : index.docCount = files.length
  document_eq : ∀ id, index.document? id = files[id]?.map fun file =>
    site.entry (pathTo root file.1) (.ofMarkup (pageOfFile root file).2)
  idOf_eq : ∀ id place bytes, files[id]? = some (place, bytes) →
    index.idOf? (pathTo root place) = some id
  /-- The path of a file is the key of one document only. -/
  key_eq_iff : ∀ id place bytes, files[id]? = some (place, bytes) → ∀ other document,
    index.document? other = some document → (document.key = pathTo root place ↔ other = id)

theorem addFound_ok (site : Site) (root : String) (file : Place × List UInt8) :
    site.addFound (pathTo root file.1, .ok file.2) =
      (Prod.fst <$> site.addPage (pageOfFile root file).1 (pageOfFile root file).2).mapError
        .fault := by
  rw [map_eq_pure_bind]
  rfl

/-- Adding files one after another is adding their pages. -/
theorem foldlM_addFound (site : Site) (root : String) (files : List (Place × List UInt8)) :
    (files.map fun file => (pathTo root file.1, .ok file.2)).foldlM addFound site =
      (site.addPages (files.map (pageOfFile root))).mapError .fault := by
  induction files generalizing site with
  | nil => rfl
  | cons file rest ih =>
    rw [List.map_cons, List.foldlM_cons, addFound_ok, List.map_cons, addPages, List.foldlM_cons]
    cases site.addPage (pageOfFile root file).1 (pageOfFile root file).2 with
    | error reason => rfl
    | ok result => exact ih result.1

variable {settings : Settings} {site : Site} {entries : List (String × FileTree)}
  {files : List (Place × List UInt8)} {root : String}

/-- Indexing a directory is adding the pages of its files, which are counted. -/
theorem addTree_directory (found : (directory entries).walk root =
    files.map fun file => (pathTo root file.1, .ok file.2)) :
    site.addTree root (.directory entries) =
      ((site.addPages (files.map (pageOfFile root))).mapError .fault).map (·, files.length) := by
  rw [addTree, found, foldlM_addFound, List.length_map]
  · cases site.addPages (files.map (pageOfFile root)) <;> rfl
  · exact nofun

theorem inserted_operations (settings : Settings) (site : Site) (root : String)
    (files : List (Place × List UInt8)) :
    Index.inserted (operations settings site (files.map (pageOfFile root))) =
      files.map fun file =>
        site.entry (pathTo root file.1) (.ofMarkup (pageOfFile root file).2) := by
  have fields : (PageFields.registered settings).filterMap
    (Operation.inserted? ∘ .addField) = [] := rfl
  rw [Index.inserted, operations, List.filterMap_append, List.filterMap_map, fields,
    List.nil_append, List.map_map, List.filterMap_map, ← List.filterMap_eq_map]
  refine List.filterMap_congr fun file _ => ?_
  simp only [Function.comp_apply, insertion, Operation.inserted?, display_pageOfFile]

theorem erase_not_mem (settings : Settings) (site : Site) (pages : List (Path × String))
    (key : String) : .erase key ∉ operations settings site pages := by
  rw [operations, List.mem_append, List.mem_map, List.mem_map]
  rintro (⟨_, -, same⟩ | ⟨_, -, same⟩) <;> cases same

/-- After files with different paths are added, the index has their pages. -/
theorem hasPages_of_run {index : Index}
    (reached : Index.run settings.similarity
      (operations settings site (files.map (pageOfFile root))) = .ok index)
    (distinct : (files.map fun file => pathTo root file.1).Nodup) :
    site.HasPages root files index := by
  have put := inserted_operations settings site root files
  have numbers := Index.numbers_of_run reached (erase_not_mem settings site _)
    (by rwa [put, List.map_map])
  have keyed := (Index.keyed_of_run reached).1
  rw [put] at numbers
  have known {id : Nat} {place : Place} {bytes : List UInt8}
      (there : files[id]? = some (place, bytes)) : index.idOf? (pathTo root place) = some id := by
    refine keyed.idOf_iff.mpr ⟨site.entry (pathTo root place)
      (.ofMarkup (pageOfFile root (place, bytes)).2), ?_, rfl⟩
    rw [numbers.document_eq, List.getElem?_map, there]
    rfl
  refine ⟨?_, fun id => ?_, fun id place bytes there => known there, ?_⟩
  · rw [numbers.docCount_eq, List.length_map]
  · rw [numbers.document_eq, List.getElem?_map]
  · intro id place bytes there other document stored
    constructor
    · intro same
      have other_known := keyed.idOf_iff.mpr ⟨document, stored, same⟩
      exact Option.some.inj (other_known.symm.trans (known there))
    · rintro rfl
      obtain ⟨found, again, same⟩ := keyed.idOf_iff.mp (known there)
      rw [stored] at again
      cases again
      exact same

/-- A directory beside a file with a name that starts like its own, and a file that is locked. -/
def notes : List (String × FileTree) := [
  ("a-b", .file [98]),
  ("locked", .unreadable (.other "Permission denied (os error 13)")),
  ("a", .directory [("y", .unreadable .notText), ("z", .file [122])])]

def noteFiles : List (Place × List UInt8) := [(["a", "z"], [122]), (["a-b"], [98])]

theorem listed_notes : (directory notes).Listed := by
  have inner : (directory [("y", .unreadable .notText), ("z", .file [122])]).Listed := by
    refine .directory (by decide) (by decide) ?_
    exact List.forall_mem_cons.mpr ⟨.unreadable _, List.forall_mem_singleton.mpr (.file _)⟩
  refine .directory (by decide) (by decide) ?_
  simp only [notes, List.forall_mem_cons]
  exact ⟨.file _, .unreadable _, inner, nofun⟩

theorem hasFiles_notes : (directory notes).HasFiles noteFiles where
  ascending := by decide
  mem_iff place bytes := by
    simp only [noteFiles, List.mem_cons, List.not_mem_nil, or_false, Prod.mk.injEq]
    constructor
    · rintro (⟨rfl, rfl⟩ | ⟨rfl, rfl⟩)
      · exact .entry (.tail _ (.tail _ (.head _))) (.entry (.tail _ (.head _)) (.file _))
      · exact .entry (.head _) (.file _)
    · rintro (_ | ⟨member, below⟩)
      simp only [notes, List.mem_cons, List.not_mem_nil, or_false, Prod.mk.injEq] at member
      rcases member with ⟨rfl, rfl⟩ | ⟨rfl, rfl⟩ | ⟨rfl, rfl⟩
      · cases below
        exact Or.inr ⟨rfl, rfl⟩
      · cases below
      · rcases below with _ | ⟨member, below⟩
        simp only [List.mem_cons, List.not_mem_nil, or_false, Prod.mk.injEq] at member
        rcases member with ⟨rfl, rfl⟩ | ⟨rfl, rfl⟩
        · cases below
        · cases below
          exact Or.inl ⟨rfl, rfl⟩

theorem short_notes : ∀ page ∈ noteFiles.map (pageOfFile "docs"),
    (Page.ofMarkup page.2).Short := by decide +kernel

end Site

end Relevance
