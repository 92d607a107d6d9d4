import Relevance.Text.Quoted

set_option autoImplicit false

namespace Relevance

abbrev FieldId := UInt32

inductive FieldType where
  /-- Split into terms with positions. -/
  | text
  /-- Kept as it is and never scored. -/
  | plain
  deriving DecidableEq, Repr

structure FieldFlags where
  /-- Its terms are looked up. -/
  indexed : Bool
  /-- Its text is kept. -/
  stored : Bool
  /-- Its length counts in the score of a document. -/
  norms : Bool
  deriving DecidableEq, Repr

def FieldFlags.bits (flags : FieldFlags) : Nat :=
  flags.indexed.toNat + 2 * flags.stored.toNat + 4 * flags.norms.toNat

structure Field where
  name : String
  type : FieldType
  flags : FieldFlags
  deriving DecidableEq, Repr

inductive SchemaError where
  | fieldExists (name : String)
  deriving DecidableEq, Repr

def SchemaError.message : SchemaError → String
  | fieldExists name => "field " ++ quoted name ++ " already exists"

structure Schema where
  fields : List Field
  names_nodup : (fields.map Field.name).Nodup

namespace Schema

def empty : Schema :=
  ⟨[], List.nodup_nil⟩

/-- The field of a number that was given out, the first one if there are several. -/
def get? (schema : Schema) (id : FieldId) : Option Field :=
  schema.fields[id.toNat]?

def find? (schema : Schema) (name : String) : Option FieldId :=
  (schema.fields.findIdx? (·.name = name)).map .ofNat

def nextId (schema : Schema) : FieldId :=
  .ofNat schema.fields.length

/-- Registers a field, unless its name is taken. -/
def add (schema : Schema) (field : Field) : Except SchemaError (Schema × FieldId) :=
  if h : field.name ∈ schema.fields.map Field.name then .error (.fieldExists field.name)
  else .ok (⟨schema.fields ++ [field], by
    simpa [List.nodup_append, schema.names_nodup] using h⟩, schema.nextId)

/-- Whether the terms of a field are looked up; not so of numbers that were never given out. -/
def isIndexed (schema : Schema) (id : FieldId) : Bool :=
  (schema.get? id).any (·.flags.indexed)

end Schema

end Relevance
