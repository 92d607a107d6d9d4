import Relevance.CommandLine

set_option autoImplicit false

open Relevance

def readFile (path : String) : IO (Except FileError (List UInt8)) := do
  try
    return .ok (← IO.FS.readBinFile path).toList
  catch error =>
    return .error (.other (toString error))

def listNames (path : String) : IO (Except FileError (List String)) := do
  try
    return .ok ((← (← IO.FS.realPath path).readDir).toList.map IO.FS.DirEntry.fileName)
  catch error =>
    return .error (.other (toString error))

/-- The tree that is seen at a path, links followed. -/
partial def readTree (path : String) : IO FileTree := do
  try
    if ← (← IO.FS.realPath path).isDir then
      match ← listNames path with
      | .ok names =>
        return .directory (← names.mapM fun name => do
          return (name, ← readTree (entryPath path name)))
      | .error error => return .closed error
    match ← readFile path with
    | .ok bytes => return .file bytes
    | .error error => return .unreadable error
  catch error =>
    return .unreadable (.other (toString error))

/-- What the arguments say is read: the settings file and the pages. -/
def readInputs (args : List String) : IO (Except FileError (List UInt8) × FileTree) :=
  match Invocation.ofArgs args with
  | .error _ => return (.error .notFound, .unreadable .notFound)
  | .ok invocation => do
    let config ← match invocation.config with
      | some path => readFile path
      | none => pure (.error .notFound)
    return (config, ← readTree invocation.docs)

def main (args : List String) : IO UInt32 := do
  let (config, docs) ← readInputs args
  let outcome := Outcome.ofArgs args (fun _ => config) (fun _ => docs)
  IO.print outcome.output
  if let some complaint := outcome.complaint then
    IO.eprintln complaint
  return .ofNat outcome.code
