import Relevance.Analysis.Token
import Relevance.Index.Schema

set_option autoImplicit false

namespace Relevance

/-- A document's number in an index. Numbers are never given out twice. -/
abbrev DocId := Nat

/-- A list of fields with one more entry, which takes the place of an earlier one. -/
def replaceField {α : Type} (field : FieldId) (value : α) (entries : List (FieldId × α)) :
    List (FieldId × α) :=
  entries.filter (fun entry => entry.1 ≠ field) ++ [(field, value)]

theorem nodup_replaceField {α : Type} {field : FieldId} {value : α} {entries : List (FieldId × α)}
    (h : (entries.map Prod.fst).Nodup) :
    ((replaceField field value entries).map Prod.fst).Nodup := by
  simp only [replaceField, List.map_append, List.nodup_append]
  refine ⟨h.sublist (List.filter_sublist.map _), by simp, ?_⟩
  simp +contextual

/-- A document under its key: the tokens of some fields and the texts of some fields. -/
structure Document where
  key : String
  tokens : List (FieldId × List Token)
  texts : List (FieldId × String)
  tokens_nodup : (tokens.map Prod.fst).Nodup
  texts_nodup : (texts.map Prod.fst).Nodup
  deriving DecidableEq

namespace Document

def ofKey (key : String) : Document :=
  ⟨key, [], [], List.nodup_nil, List.nodup_nil⟩

/-- The document with the tokens of a field, in place of those it had. -/
def withTokens (document : Document) (field : FieldId) (tokens : List Token) : Document :=
  { document with
    tokens := replaceField field tokens document.tokens
    tokens_nodup := nodup_replaceField document.tokens_nodup }

/-- The document with the text of a field, in place of the one it had. -/
def withText (document : Document) (field : FieldId) (text : String) : Document :=
  { document with
    texts := replaceField field text document.texts
    texts_nodup := nodup_replaceField document.texts_nodup }

def text? (document : Document) (field : FieldId) : Option String :=
  document.texts.lookup field

end Document

end Relevance
