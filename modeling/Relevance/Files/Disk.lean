import Relevance.Files.Tree

/-
A disk holds files, directories and symbolic links below one directory, from which all paths start.
A place is the list of names on the way from there. `Disk.follow` finds the place that a path leads
to, links followed, and `Disk.view` the tree that is seen there. Nothing outside is found.
-/

set_option autoImplicit false

namespace Relevance

inductive DiskEntry where
  | file (bytes : List UInt8)
  | directory
  | link (target : String)
  deriving DecidableEq, Repr

abbrev Place := List String

/-- Entries at their places. What lies above an entry is a directory. -/
structure Disk where
  entries : List (Place × DiskEntry)
  deriving DecidableEq, Repr

namespace Disk

def parts (path : String) : List String :=
  path.splitOn "/"

def staysPut (part : String) : Bool :=
  part = "" || part = "."

def ofPaths (entries : List (String × DiskEntry)) : Disk :=
  ⟨entries.map fun entry => ((parts entry.1).filter (!staysPut ·), entry.2)⟩

def at? (disk : Disk) (place : Place) : Option DiskEntry :=
  match disk.entries.reverse.lookup place with
  | some entry => some entry
  | none =>
    if place.isEmpty || disk.entries.any (place.isPrefixOf ·.1) then some .directory else none

def isDirectory (disk : Disk) (place : Place) : Bool :=
  disk.at? place = some .directory

def names (disk : Disk) (place : Place) : List String :=
  (disk.entries.filterMap fun entry =>
    if place.isPrefixOf entry.1 then entry.1[place.length]? else none).eraseDups

/-- The largest number of names on the way to an entry. -/
def depth (disk : Disk) : Nat :=
  disk.entries.foldl (fun depth entry => max depth entry.1.length) 0

/-- Number of links that may be followed on the way along one path. -/
def linkLimit : Nat := 40

def nameLimit : Nat := 255

def pathLimit : Nat := 4095

/-- Whether the target of a link, or a path, starts outside of the disk. -/
def leadsOutside (path : String) : Bool :=
  path.isEmpty || path.startsWith "/"

/-- The place that the parts of a path lead to from another place, and the number of links that may
still be followed from there. A target takes the place of its link in the path. -/
def follow (disk : Disk) (links : Nat) (place : Place) :
    List String → Except FileError (Place × Nat)
  | [] => .ok (place, links)
  | part :: rest =>
    if !disk.isDirectory place then .error .notDirectory
    else if staysPut part then disk.follow links place rest
    else if part = ".." then
      if place.isEmpty then .error .notFound else disk.follow links place.dropLast rest
    else if nameLimit < part.utf8ByteSize then .error .nameTooLong
    else match disk.at? (place ++ [part]) with
      | none => .error .notFound
      | some (.link target) =>
        match links with
        | 0 => .error .tooManyLinks
        | links + 1 =>
          if leadsOutside target then .error .notFound
          else disk.follow links place (parts target ++ rest)
      | some _ => disk.follow links (place ++ [part]) rest
  termination_by parts => (links, parts.length)

def resolve (disk : Disk) (path : String) : Except FileError (Place × Nat) :=
  if path.contains '\x00' then .error .nulInName
  else if pathLimit < path.utf8ByteSize then .error .nameTooLong
  else if leadsOutside path then .error .notFound
  else disk.follow linkLimit [] (parts path)

/-- The tree at a place with at most `depth` names below it. Links among the entries lead to trees
of any depth, and to fewer links. -/
def viewAt (disk : Disk) (links depth : Nat) (place : Place) : FileTree :=
  match disk.at? place with
  | some (.file bytes) => .file bytes
  | some .directory => .directory ((disk.names place).map fun name =>
      (name, match disk.follow links place [name] with
        | .error error => .unreadable error
        | .ok (target, left) =>
          if left < links then disk.viewAt left disk.depth target
          else match depth with
            | 0 => .unreadable .nameTooLong
            | depth + 1 => disk.viewAt links depth target))
  | _ => .unreadable .notFound
  termination_by (links, depth)

def view (disk : Disk) (path : String) : FileTree :=
  match disk.resolve path with
  | .error error => .unreadable error
  | .ok (place, links) => disk.viewAt links disk.depth place

def read (disk : Disk) (path : String) : Except FileError (List UInt8) :=
  match disk.view path with
  | .file bytes => .ok bytes
  | .unreadable error => .error error
  | .directory _ | .closed _ => .error .isDirectory

end Disk

end Relevance
