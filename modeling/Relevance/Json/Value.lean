import Relevance.Numeric.Layout

set_option autoImplicit false

namespace Relevance

inductive Json where
  | null
  | bool (value : Bool)
  | integer (value : Int)
  | number (value : Float)
  | string (value : String)
  | array (elements : List Json)
  | object (fields : List (String × Json))
  deriving Inhabited

namespace Json

def ofSingle (x : Float32) : Json :=
  .number (widen x)

def ofNat (n : Nat) : Json :=
  .integer n

/-- A character inside a JSON string: quotes, backslashes and control characters are escaped. -/
def escapeChar (c : Char) : List Char :=
  match c with
  | '"' => ['\\', '"']
  | '\\' => ['\\', '\\']
  | '\x08' => ['\\', 'b']
  | '\x0c' => ['\\', 'f']
  | '\n' => ['\\', 'n']
  | '\r' => ['\\', 'r']
  | '\t' => ['\\', 't']
  | _ =>
    if c.toNat < 0x20 then
      '\\' :: 'u' :: List.replicate (4 - (Nat.toDigits 16 c.toNat).length) '0' ++
        Nat.toDigits 16 c.toNat
    else [c]

def quote (text : String) : String :=
  String.ofList ('"' :: (text.toList.flatMap escapeChar ++ ['"']))

/-- Text of a value other than an array or object. -/
def scalar : Json → String
  | .null => "null"
  | .bool value => if value then "true" else "false"
  | .integer value => toString value
  | .number value => jsonNumberText value
  | .string value => quote value
  | .array _ => "[]"
  | .object _ => "\x7b\x7d"

mutual

def compact : Json → String
  | .array elements => "[" ++ ",".intercalate (compactElements elements) ++ "]"
  | .object fields => "\x7b" ++ ",".intercalate (compactFields fields) ++ "\x7d"
  | value => value.scalar

def compactElements : List Json → List String
  | [] => []
  | element :: rest => element.compact :: compactElements rest

def compactFields : List (String × Json) → List String
  | [] => []
  | (name, value) :: rest => (quote name ++ ":" ++ value.compact) :: compactFields rest

end

/-- A new line at a depth of nesting, two blanks for each level. -/
def newline (depth : Nat) : String :=
  String.ofList ('\n' :: List.replicate (2 * depth) ' ')

/-- Parts on lines of their own between brackets, or the brackets alone. -/
def block (opening closing : String) (depth : Nat) (parts : List String) : String :=
  if parts.isEmpty then opening ++ closing
  else opening ++ ",".intercalate (parts.map (newline (depth + 1) ++ ·)) ++ newline depth ++ closing

mutual

/-- The text of a value at a depth of nesting, spread over lines. -/
def prettyAt (depth : Nat) : Json → String
  | .array elements => block "[" "]" depth (prettyElements (depth + 1) elements)
  | .object fields => block "\x7b" "\x7d" depth (prettyFields (depth + 1) fields)
  | value => value.scalar

def prettyElements (depth : Nat) : List Json → List String
  | [] => []
  | element :: rest => element.prettyAt depth :: prettyElements depth rest

def prettyFields (depth : Nat) : List (String × Json) → List String
  | [] => []
  | (name, value) :: rest =>
    (quote name ++ ": " ++ value.prettyAt depth) :: prettyFields depth rest

end

def pretty (value : Json) : String :=
  value.prettyAt 0

end Json

end Relevance
