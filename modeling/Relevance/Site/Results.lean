import Relevance.Query.Search
import Relevance.Query.Written
import Relevance.Site.Pages

set_option autoImplicit false

namespace Relevance

structure Hit where
  doc : DocId
  score : Float32
  path : String
  title : String
  explanation : Option Explanation

structure Results where
  /-- The query as it was written. -/
  query : String
  /-- Number of matching pages, whether they are shown or not. -/
  total : Nat
  hits : List Hit

namespace Site

def hit (site : Site) (query : Query) (explain : Bool) (found : ScoredDoc) : Except Fault Hit := do
  let shown (field : FieldId) : String := (site.index.storedText? found.doc field).getD ""
  let explanation ←
    if explain then some <$> site.index.explain site.index.similarity query found.doc
    else pure none
  return ⟨found.doc, found.score, shown site.fields.path, shown site.fields.title,
    explanation⟩

def query (site : Site) (settings : Settings) (text : String) : Except Fault Query :=
  Query.ofText text settings.fields site.analyzer

def search (site : Site) (settings : Settings) (text : String) : Except Fault Results := do
  let query ← site.query settings text
  let best ← Collector.best settings.top
  let (total, ranking) ← site.index.search site.index.similarity query
    (Collector.count.both best) (0, [])
  let hits ← ranking.mapM (site.hit query settings.explain)
  return ⟨text, total, hits⟩

end Site

namespace Hit

def toJson (hit : Hit) : Json :=
  let explanation := match hit.explanation with
    | some explanation => [("explanation", explanation.toJson)]
    | none => []
  .object (("doc_id", .ofNat hit.doc) :: explanation ++ [
    ("path", .string hit.path),
    ("score", .ofSingle hit.score),
    ("title", .string hit.title)])

/-- Places of a score that are shown in a listing. -/
def scorePlaces : Nat := 4

def rankWidth : Nat := 3

/-- Width of what stands before the path in a listing, under which explanations start. -/
def indent : String := "       "

def alignRight (width n : Nat) : String :=
  let digits := toString n
  String.ofList (List.replicate (width - digits.length) ' ') ++ digits

def text (hit : Hit) (rank : Nat) : String :=
  let explanation := match hit.explanation with
    | some explanation => (explanation.outline 0).map fun entry => indent ++ Explanation.line entry
    | none => []
  alignRight rankWidth rank ++ ". " ++ fixedText scorePlaces hit.score ++ "  " ++ hit.path ++
    "  " ++ hit.title ++ "\n" ++ String.join explanation

end Hit

namespace Results

def toJson (results : Results) : Json :=
  .object [
    ("hits", .array (results.hits.map Hit.toJson)),
    ("query", .string results.query),
    ("total", .ofNat results.total)]

def text (results : Results) : String :=
  results.query ++ " (" ++ toString results.total ++ " matching documents)\n" ++
    String.join ((results.hits.zipIdx 1).map fun entry => entry.1.text entry.2)

end Results

end Relevance
