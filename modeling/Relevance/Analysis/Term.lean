import Relevance.Text.Utf8

set_option autoImplicit false

namespace Relevance

structure Term where
  bytes : List UInt8
  deriving DecidableEq, Repr

namespace Term

instance : Ord Term :=
  ⟨compareOn bytes⟩

instance : Std.TransOrd Term :=
  inferInstanceAs (Std.TransCmp (compareOn bytes))

instance : Std.LawfulEqOrd Term where
  eq_of_compare h := by
    obtain ⟨a⟩ := ‹Term›
    obtain ⟨b⟩ := ‹Term›
    exact congrArg Term.mk (Std.LawfulEqCmp.eq_of_compare h)

def ofText (text : List Char) : Term :=
  ⟨Utf8.encode text⟩

def ofString (text : String) : Term :=
  ofText text.toList

def text? (term : Term) : Option (List Char) :=
  Utf8.decode? term.bytes

def bytesText (bytes : List UInt8) : String :=
  "[" ++ ", ".intercalate (bytes.map fun byte => toString byte.toNat) ++ "]"

/-- How a term is shown: as its text, or else as its bytes. -/
def display (term : Term) : String :=
  match term.text? with
  | some text => .ofList text
  | none => bytesText term.bytes

end Term

end Relevance
