import Relevance.Analysis.Analyzer
import Relevance.Json.Value
import Relevance.Scoring.Similarity

set_option autoImplicit false

namespace Relevance

namespace Similarity

/-- The word for a similarity in settings and on the command line. -/
def keyword : Similarity → String
  | smoothed => "smoothed"
  | classic => "classic"

def ofKeyword? (word : String) : Option Similarity :=
  [smoothed, classic].find? (·.keyword = word)

theorem ofKeyword?_keyword (similarity : Similarity) :
    ofKeyword? similarity.keyword = some similarity := by
  cases similarity <;> decide

end Similarity

structure Settings where
  similarity : Similarity
  /-- The fields that queries are run against, with or without a boost as in `title^2`. -/
  fields : List String
  /-- Number of hits to show for a query. -/
  top : Nat
  /-- Whether the length of a title counts. -/
  titleNorms : Bool
  /-- Whether the length of a body counts. -/
  contentNorms : Bool
  /-- Whether stop words are left out of pages and queries. -/
  stopWords : Bool
  /-- Whether hits come with an explanation of their score. -/
  explain : Bool
  deriving DecidableEq, Repr

namespace Settings

def standard : Settings where
  similarity := .smoothed
  fields := ["title", "content"]
  top := 10
  titleNorms := true
  contentNorms := true
  stopWords := true
  explain := false

def analyzer (settings : Settings) : Analyzer :=
  if settings.stopWords then .standard else ⟨[.lowercase]⟩

def toJson (settings : Settings) : Json :=
  .object [
    ("similarity", .string settings.similarity.keyword),
    ("fields", .array (settings.fields.map .string)),
    ("top", .ofNat settings.top),
    ("title_norms", .bool settings.titleNorms),
    ("content_norms", .bool settings.contentNorms),
    ("stop_words", .bool settings.stopWords),
    ("explain", .bool settings.explain)]

end Settings

end Relevance
