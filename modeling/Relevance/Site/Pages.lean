import Relevance.Files.Tree
import Relevance.Index.Store
import Relevance.Page.Markup
import Relevance.Settings.Basic

set_option autoImplicit false

namespace Relevance

structure PageFields where
  title : FieldId
  content : FieldId
  path : FieldId
  deriving DecidableEq, Repr

/-- Registers the fields of pages. The settings say whether lengths count. -/
def PageFields.register (index : Index) (settings : Settings) :
    Except SchemaError (Index × PageFields) := do
  let (index, title) ← index.addField ⟨"title", .text, ⟨true, true, settings.titleNorms⟩⟩
  let (index, content) ← index.addField ⟨"content", .text, ⟨true, false, settings.contentNorms⟩⟩
  let (index, path) ← index.addField ⟨"path", .plain, ⟨false, true, false⟩⟩
  return (index, ⟨title, content, path⟩)

inductive IndexingError where
  | unreadable (path : String) (error : FileError)
  | schema (error : SchemaError)
  | fault (fault : Fault)
  deriving DecidableEq, Repr

def IndexingError.message : IndexingError → String
  | unreadable path error => "cannot read " ++ quoted path ++ ": " ++ error.message
  | schema error => error.message
  | .fault cause => cause.message

/-- An index of pages and what is needed to add more. -/
structure Site where
  index : Index
  fields : PageFields
  analyzer : Analyzer

namespace Site

def ofSettings (settings : Settings) : Except IndexingError Site :=
  match PageFields.register (.empty settings.similarity) settings with
  | .ok (index, fields) => .ok ⟨index, fields, settings.analyzer⟩
  | .error error => .error (.schema error)

/-- The document of a page. Its key is the path as it is shown. -/
def document (site : Site) (path : Path) (page : Page) : Except Fault Document := do
  let title ← site.analyzer.analyze page.title.toList
  let content ← site.analyzer.analyze page.body.toList
  return (((Document.ofKey path.display).withTokens site.fields.title title
    |>.withTokens site.fields.content content)
    |>.withText site.fields.title page.title)
    |>.withText site.fields.path path.display

/-- Adds a page, in place of the one whose path is shown alike. The answer is its number. -/
def addPage (site : Site) (path : Path) (markup : String) : Except Fault (Site × DocId) := do
  let document ← site.document path (.ofMarkup markup)
  let (index, id) ← site.index.insert document
  return ({ site with index }, id)

/-- Adds the page in a file. Bytes that are no text are replaced. -/
def addFile (site : Site) (path : String) (bytes : List UInt8) : Except Fault Site := do
  return (← site.addPage (.ofString path) (.ofList (Utf8.decodeLossy bytes))).1

/-- Adds what is found on the way through a tree, unless it is a directory that cannot be listed. -/
def addFound (site : Site) (found : Found) : Except IndexingError Site :=
  match found.2 with
  | .error error => .error (.unreadable found.1 error)
  | .ok bytes => (site.addFile found.1 bytes).mapError .fault

/-- Adds the files of a tree. The answer is their number. Below a directory, files that cannot be
read are left out. -/
def addTree (site : Site) (path : String) (tree : FileTree) : Except IndexingError (Site × Nat) :=
  match tree with
  | .unreadable error => .error (.unreadable path error)
  | tree => do
    let found := tree.walk path
    return (← found.foldlM addFound site, found.length)

end Site

end Relevance
