import Relevance.Text.Utf8

set_option autoImplicit false

namespace Relevance

/-- A path. Its bytes need not be those of a text. -/
structure Path where
  bytes : List UInt8
  deriving DecidableEq, Repr

namespace Path

def ofString (text : String) : Path :=
  ⟨Utf8.encode text.toList⟩

/-- The path as it is shown, with replacements for what is no text. -/
def display (path : Path) : String :=
  .ofList (Utf8.decodeLossy path.bytes)

end Path

inductive FileError where
  | notFound
  | notDirectory
  | isDirectory
  | nameTooLong
  | tooManyLinks
  | nulInName
  | notText
  /-- A reason that the system gives in its own words. -/
  | other (text : String)
  deriving DecidableEq, Repr

def FileError.message : FileError → String
  | notFound => "No such file or directory (os error 2)"
  | notDirectory => "Not a directory (os error 20)"
  | isDirectory => "Is a directory (os error 21)"
  | nameTooLong => "File name too long (os error 36)"
  | tooManyLinks => "Too many levels of symbolic links (os error 40)"
  | nulInName => "file name contained an unexpected NUL byte"
  | notText => "stream did not contain valid UTF-8"
  | other text => text

inductive FileTree where
  | file (bytes : List UInt8)
  | unreadable (error : FileError)
  | directory (entries : List (String × FileTree))
  /-- A directory that cannot be listed. -/
  | closed (error : FileError)

def entryPath (path name : String) : String :=
  if path.toList.getLast? = some '/' then path ++ name else path ++ "/" ++ name

/-- What is found at a path: the bytes of a file, or a directory and why it cannot be listed. -/
abbrev Found := String × Except FileError (List UInt8)

namespace FileTree

mutual

/-- What is found on the way through a tree. A directory is gone through in the place of its own
name, and files that cannot be read are passed over. -/
def walk (path : String) : FileTree → List Found
  | file bytes => [(path, .ok bytes)]
  | unreadable _ => []
  | directory entries =>
    ((walkEntries path entries).mergeSort fun a b => decide (a.1 ≤ b.1)).flatMap Prod.snd
  | closed error => [(path, .error error)]

/-- The names in a directory, each with what is found there. -/
def walkEntries (path : String) : List (String × FileTree) → List (String × List Found)
  | [] => []
  | (name, tree) :: rest => (name, tree.walk (entryPath path name)) :: walkEntries path rest

end

end FileTree

end Relevance
