import Relevance.Files.Tree
import Relevance.Settings.Written

set_option autoImplicit false

namespace Relevance.Settings

inductive LoadError where
  | unreadable (path : String) (error : FileError)
  | invalid (path : String) (error : WrittenError)

def LoadError.message : LoadError → String
  | unreadable path error => "cannot read settings file " ++ quoted path ++ ": " ++ error.message
  | invalid path error =>
    "invalid settings file " ++ quoted path ++ ": " ++ error.message?.getD "not JSON"

/-- The settings in the file at a path, given what is read there. -/
def load (path : String) (content : Except FileError (List UInt8)) : Except LoadError Settings :=
  match content with
  | .error error => .error (.unreadable path error)
  | .ok bytes =>
    match Utf8.decode? bytes with
    | none => .error (.unreadable path .notText)
    | some text =>
      match ofText (.ofList text) with
      | .ok settings => .ok settings
      | .error error => .error (.invalid path error)

end Relevance.Settings
