import Relevance.Proofs.Analysis.Positions
import Relevance.Proofs.Index.Keyed
import Relevance.Proofs.Query.Meaning
import Relevance.Proofs.Text.Utf8
import Relevance.Site.Pages

set_option autoImplicit false

namespace Relevance

/-- The fields of pages in the order of their registration. -/
def PageFields.registered (settings : Settings) : List Field := [
  ⟨"title", .text, ⟨true, true, settings.titleNorms⟩⟩,
  ⟨"content", .text, ⟨true, false, settings.contentNorms⟩⟩,
  ⟨"path", .plain, ⟨false, true, false⟩⟩]

/-- The text of a page that is searched under the name of a field. -/
def Page.text? (page : Page) (name : String) : Option String :=
  if name = "title" then some page.title
  else if name = "content" then some page.body
  else none

/-- The texts of a page have less than `2 ^ 31` words. -/
structure Page.Short (page : Page) : Prop where
  title : (words page.title.toList).length < 2 ^ 31
  body : (words page.body.toList).length < 2 ^ 31

instance (page : Page) : Decidable page.Short :=
  decidable_of_iff ((words page.title.toList).length < 2 ^ 31 ∧
      (words page.body.toList).length < 2 ^ 31)
    ⟨fun both => ⟨both.1, both.2⟩, fun short => ⟨short.title, short.body⟩⟩

/-- The words of both texts of a page can be numbered. -/
def Page.Readable (page : Page) : Prop :=
  Enumerable page.title.toList ∧ Enumerable page.body.toList

theorem Page.Short.readable {page : Page} (short : page.Short) : page.Readable := by
  have size : UInt32.size = 2 ^ 32 := rfl
  have title := short.title
  have body := short.body
  unfold Page.Readable Enumerable
  omega

/-- A text that is a path is shown as it is. -/
@[simp] theorem Path.display_ofString (text : String) : (Path.ofString text).display = text := by
  rw [display, ofString, Utf8.decodeLossy_encode, String.ofList_toList]

/-- The markup that was last added at a path that is shown like this. -/
def lastMarkup? (pages : List (Path × String)) (path : String) : Option String :=
  (pages.map (Prod.map Path.display id)).reverse.lookup path

theorem lastMarkup?_append (pages : List (Path × String)) (page : Path × String)
    (path : String) : lastMarkup? (pages ++ [page]) path =
      if page.1.display = path then some page.2 else lastMarkup? pages path := by
  rw [lastMarkup?, List.map_append, List.map_singleton, List.reverse_concat, List.lookup_cons,
    ← lastMarkup?]
  by_cases same : page.1.display = path
  · rw [if_pos same, Prod.map_fst, beq_iff_eq.mpr same.symm]
    rfl
  · rw [if_neg same, Prod.map_fst, beq_eq_false_iff_ne.mpr (Ne.symm same)]

theorem exists_mem_of_lastMarkup {pages : List (Path × String)} {path markup : String}
    (last : lastMarkup? pages path = some markup) : ∃ page ∈ pages, page.2 = markup := by
  induction pages using List.reverseRecOn with
  | nil => cases last
  | append_singleton pages page ih =>
    rw [lastMarkup?_append] at last
    split at last
    · cases last
      exact ⟨page, List.mem_concat_self, rfl⟩
    · obtain ⟨page, member, same⟩ := ih last
      exact ⟨page, List.mem_append_left _ member, same⟩

namespace Site

def addPages (site : Site) (pages : List (Path × String)) : Except Fault Site :=
  pages.foldlM (fun site page => Prod.fst <$> site.addPage page.1 page.2) site

/-- The document of a page whose words can be numbered, under the path that is shown. -/
def entry (site : Site) (path : String) (page : Page) : Document :=
  (((Document.ofKey path).withTokens site.fields.title (site.analyzer.tokens page.title.toList)
    |>.withTokens site.fields.content (site.analyzer.tokens page.body.toList))
    |>.withText site.fields.title page.title)
    |>.withText site.fields.path path

theorem document_of_readable (site : Site) (path : Path) {page : Page} (readable : page.Readable) :
    site.document path page = .ok (site.entry path.display page) := by
  rw [document, Analyzer.analyze_of_enumerable readable.1,
    Analyzer.analyze_of_enumerable readable.2]
  rfl

theorem document_of_not_readable (site : Site) (path : Path) {page : Page}
    (long : ¬ page.Readable) : site.document path page = .error .additionOverflow := by
  rw [document]
  by_cases title : Enumerable page.title.toList
  · rw [Analyzer.analyze_of_enumerable title, Fault.ok_bind,
      Analyzer.analyze_of_not_enumerable fun body => long ⟨title, body⟩, Fault.error_bind]
  · rw [Analyzer.analyze_of_not_enumerable title, Fault.error_bind]

def insertion (site : Site) (page : Path × String) : Operation :=
  .insert (site.entry page.1.display (.ofMarkup page.2))

/-- A site that has the fields of pages and no pages. -/
structure Blank (settings : Settings) (site : Site) : Prop where
  fields_eq : site.fields = ⟨0, 1, 2⟩
  analyzer_eq : site.analyzer = settings.analyzer
  reached : Index.run settings.similarity
    ((PageFields.registered settings).map .addField) = .ok site.index

/-- The names of the fields of pages are distinct, so they can be registered in a new index. -/
theorem exists_ofSettings (settings : Settings) :
    ∃ site, ofSettings settings = .ok site ∧ site.Blank settings := by
  exact ⟨_, rfl, rfl, rfl, rfl⟩

theorem addPages_eq_foldlM (site : Site) {pages : List (Path × String)}
    (readable : ∀ page ∈ pages, (Page.ofMarkup page.2).Readable) :
    site.addPages pages = (fun index => { site with index }) <$>
      (pages.map site.insertion).foldlM Index.perform site.index := by
  induction pages generalizing site with
  | nil => rfl
  | cons page rest ih =>
    rw [List.forall_mem_cons] at readable
    rw [addPages, List.foldlM_cons, List.map_cons, List.foldlM_cons]
    simp only [addPage, document_of_readable site page.1 readable.1, Fault.ok_bind, insertion,
      Index.perform]
    cases site.index.insert (site.entry page.1.display (.ofMarkup page.2)) with
    | error reason => rfl
    | ok result => exact ih { site with index := result.1 } readable.2

/-- The operations on an index that register the fields of pages and add pages. -/
def operations (settings : Settings) (site : Site) (pages : List (Path × String)) :
    List Operation :=
  (PageFields.registered settings).map .addField ++ pages.map site.insertion

variable {settings : Settings} {site : Site} {pages : List (Path × String)}

/-- Adding pages is a run of an index. -/
theorem Blank.addPages_eq (blank : site.Blank settings)
    (readable : ∀ page ∈ pages, (Page.ofMarkup page.2).Readable) :
    site.addPages pages = (fun index => { site with index }) <$>
      Index.run settings.similarity (operations settings site pages) := by
  have start := blank.reached
  rw [Index.run] at start
  rw [addPages_eq_foldlM site readable, Index.run, operations, List.foldlM_append, start]
  rfl

/-- A page with too many words cannot be added. -/
theorem Blank.addPages_of_not_readable (blank : site.Blank settings)
    (long : ¬ ∀ page ∈ pages, (Page.ofMarkup page.2).Readable) :
    site.addPages pages = .error .additionOverflow := by
  induction pages using List.reverseRecOn with
  | nil => exact absurd (List.forall_mem_nil _) long
  | append_singleton pages last ih =>
    rw [addPages, List.foldlM_append, ← addPages]
    by_cases readable : ∀ page ∈ pages, (Page.ofMarkup page.2).Readable
    case neg => rw [ih readable, Fault.error_bind]
    rw [blank.addPages_eq readable]
    -- it need not be reached
    cases reached : Index.run settings.similarity (operations settings site pages) with
    | error reason =>
      obtain ⟨rfl, -⟩ := Index.run_eq_error reached
      rfl
    | ok index =>
      have final : ¬ (Page.ofMarkup last.2).Readable := by
        intro own
        apply long
        rw [List.forall_mem_append, List.forall_mem_singleton]
        exact ⟨readable, own⟩
      rw [Fault.map_ok, Fault.ok_bind, List.foldlM_cons, addPage,
        document_of_not_readable _ last.1 final]
      rfl

theorem addField_not_mem (site : Site) (pages : List (Path × String)) (field : Field) :
    .addField field ∉ pages.map site.insertion := by
  intro member
  obtain ⟨page, -, same⟩ := List.mem_map.mp member
  cases same

theorem fieldsFirst_operations (settings : Settings) (site : Site)
    (pages : List (Path × String)) :
    Index.FieldsFirst settings.similarity (operations settings site pages) :=
  Index.fieldsFirst_of_leading settings.similarity _ (addField_not_mem site pages)

/-- No page changes the fields. -/
theorem schema_fields_eq {index : Index}
    (reached : Index.run settings.similarity (operations settings site pages) = .ok index) :
    index.schema.fields = PageFields.registered settings := by
  rw [Index.schema_of_run reached, operations, List.foldl_append,
    Index.foldl_after_of_settled (addField_not_mem site pages)]
  rfl

/-- The document under a path is that of the markup last added there. -/
theorem bindings_operations (settings : Settings) (site : Site)
    (pages : List (Path × String)) (path : String) :
    (Index.bindings (operations settings site pages))[path]? =
      (lastMarkup? pages path).map fun markup =>
        site.entry path (.ofMarkup markup) := by
  induction pages using List.reverseRecOn with
  | nil => exact Std.ExtTreeMap.getElem?_empty
  | append_singleton pages page ih =>
    rw [operations, List.map_append, ← List.append_assoc, ← operations, List.map_singleton,
      Index.bindings_append, insertion, Index.rebind, Std.ExtTreeMap.getElem?_insert, ih,
      lastMarkup?_append]
    have named : (site.entry page.1.display (.ofMarkup page.2)).key = page.1.display := rfl
    simp only [named, Std.LawfulEqCmp.compare_eq_iff_eq]
    split
    · rename_i same
      rw [Option.map_some, same]
    · rfl

theorem Blank.tokens_eq (blank : site.Blank settings) (path : String) (page : Page) :
    (site.entry path page).tokens = [
      (0, settings.analyzer.tokens page.title.toList),
      (1, settings.analyzer.tokens page.body.toList)] := by
  rw [entry, blank.fields_eq, blank.analyzer_eq]
  rfl

/-- The tokens of a page that are searched under a name are those of its text of that name. -/
theorem Blank.searched_eq (blank : site.Blank settings) {schema : Schema}
    (fields : schema.fields = PageFields.registered settings) (path : String) (page : Page)
    (name : String) : schema.searched (site.entry path page) name =
      ((page.text? name).map fun text => settings.analyzer.tokens text.toList).getD [] := by
  rw [Schema.searched, blank.tokens_eq, Schema.find?]
  simp only [Schema.isIndexed, Schema.get?, fields, PageFields.registered, Page.text?]
  by_cases title : name = "title"
  · subst title
    rfl
  by_cases content : name = "content"
  · subst content
    rfl
  by_cases own : name = "path"
  · subst own
    rfl
  · simp [List.findIdx?_cons, title, content, own, eq_comm]

/-- A page whose texts are short counts for less than `2 ^ 32`. -/
theorem Blank.load_insertion_lt (blank : site.Blank settings) {page : Path × String}
    (short : (Page.ofMarkup page.2).Short) : (site.insertion page).load < 2 ^ 32 := by
  have title := settings.analyzer.length_tokens_le (Page.ofMarkup page.2).title.toList
  have body := settings.analyzer.length_tokens_le (Page.ofMarkup page.2).body.toList
  have titleShort := short.title
  have bodyShort := short.body
  simp only [insertion, Operation.load, Document.load, blank.tokens_eq, List.map_cons,
    List.map_nil, List.sum_cons, List.sum_nil]
  omega

theorem Blank.load_operations_le (blank : site.Blank settings)
    (short : ∀ page ∈ pages, (Page.ofMarkup page.2).Short) :
    Index.load (operations settings site pages) ≤ pages.length * (2 ^ 32 - 1) := by
  have fields : ((PageFields.registered settings).map (Operation.load ∘ .addField)).sum = 0 := rfl
  rw [Index.load, operations, List.map_append, List.sum_append, List.map_map, fields, Nat.zero_add,
    List.map_map, ← smul_eq_mul, ← List.length_map (Operation.load ∘ site.insertion)]
  refine List.sum_le_card_nsmul _ _ (List.forall_mem_map.mpr fun page member => ?_)
  exact Nat.le_sub_one_of_lt (blank.load_insertion_lt (short page member))

/-- There are so many pages that counters might have no room for them. -/
theorem le_length_of_full (blank : site.Blank settings)
    (short : ∀ page ∈ pages, (Page.ofMarkup page.2).Short)
    (full : UInt64.size ≤ Index.load (operations settings site pages) + 2) :
    2 ^ 32 ≤ pages.length := by
  have bound := blank.load_operations_le short
  have size : UInt64.size = 2 ^ 64 := rfl
  by_contra few
  have product : pages.length * (2 ^ 32 - 1) ≤ (2 ^ 32 - 1) * (2 ^ 32 - 1) :=
    Nat.mul_le_mul_right _ (by omega)
  omega

/-- Adding pages fails only if there are too many. -/
theorem Blank.addPages_cases (blank : site.Blank settings)
    (short : ∀ page ∈ pages, (Page.ofMarkup page.2).Short) :
    (∃ index, site.addPages pages = .ok { site with index } ∧
      Index.run settings.similarity (operations settings site pages) = .ok index) ∨
    site.addPages pages = .error .additionOverflow ∧ 2 ^ 32 ≤ pages.length := by
  rw [blank.addPages_eq fun page member => (short page member).readable]
  cases reached : Index.run settings.similarity (operations settings site pages) with
  | ok index => exact Or.inl ⟨index, rfl, rfl⟩
  | error reason =>
    obtain ⟨rfl, full⟩ := Index.run_eq_error reached
    exact Or.inr ⟨rfl, le_length_of_full blank short (Nat.le_add_right_of_le full)⟩

end Site

end Relevance
