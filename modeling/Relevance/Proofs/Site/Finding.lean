import Mathlib.Data.Set.Card
import Relevance.Proofs.Query.Explaining
import Relevance.Proofs.Query.Parts
import Relevance.Proofs.Query.Selection
import Relevance.Proofs.Query.Written
import Relevance.Proofs.Site.Indexing
import Relevance.Proofs.Text.Words
import Relevance.Site.Results

set_option autoImplicit false

namespace Relevance

theorem not_foundIn_nil {analyzer : Analyzer} {part : QueryPart} : ¬ part.FoundIn analyzer [] := by
  cases part with
  | word text =>
    rintro ⟨token, -, has⟩
    cases has
  | phrase text =>
    rintro ⟨some, stands⟩
    exact not_standsIn_nil some stands

/-- A page answers a written query if some part of it is found in a text that is searched. -/
def Page.Answers (page : Page) (settings : Settings) (query : String) : Prop :=
  ∃ part ∈ QueryPart.scan query.toList, ∃ field ∈ settings.fields, ∃ text,
    page.text? (SearchField.read field).name = some text ∧
      part.FoundIn settings.analyzer (settings.analyzer.tokens text.toList)

/-- The quoted phrases of a written query have less than `2 ^ 31` words. -/
def ShortPhrases (query : String) : Prop :=
  ∀ phrase, .phrase phrase ∈ QueryPart.scan query.toList → (words phrase).length < 2 ^ 31

/-- The page that there is in the end at a path, as it is shown, answers a written query. -/
def AnsweredAt (pages : List (Path × String)) (settings : Settings)
    (query path : String) : Prop :=
  ∃ markup, lastMarkup? pages path = some markup ∧ (Page.ofMarkup markup).Answers settings query

structure Results.Report (results : Results) (pages : List (Path × String)) (settings : Settings)
    (query : String) : Prop where
  total_eq : results.total = {path | AnsweredAt pages settings query path}.ncard
  paths_nodup : (results.hits.map Hit.path).Nodup
  of_hit : ∀ hit ∈ results.hits, ∃ markup, lastMarkup? pages hit.path = some markup ∧
    (Page.ofMarkup markup).Answers settings query ∧ hit.title = (Page.ofMarkup markup).title

/-- A list without repetitions has as many members as the set of them. -/
theorem ncard_eq_length {paths : List String} (distinct : paths.Nodup) {holds : String → Prop}
    (same : ∀ path, path ∈ paths ↔ holds path) : {path | holds path}.ncard = paths.length := by
  have listed : {path | holds path} = (paths.toFinset : Set String) := by
    ext path
    rw [Set.mem_ofPred_eq, ← same, Finset.mem_coe, List.mem_toFinset]
  rw [listed, Set.ncard_coe_finset, List.toFinset_card_of_nodup distinct]

namespace Site

variable {settings : Settings} {site : Site} {pages : List (Path × String)}

def pathOf (site : Site) (doc : DocId) : String :=
  (site.index.storedText? doc site.fields.path).getD ""

def titleOf (site : Site) (doc : DocId) : String :=
  (site.index.storedText? doc site.fields.title).getD ""

/-- The query for a text is true of a page's document if the page answers it. -/
theorem Blank.satisfied_iff (blank : site.Blank settings) {schema : Schema}
    (fields : schema.fields = PageFields.registered settings) (path : String) (page : Page)
    (text : String) : (Query.asked text settings.fields settings.analyzer).Satisfied schema
      (site.entry path page) ↔ page.Answers settings text := by
  rw [Query.satisfied_asked, Page.Answers]
  refine exists_congr fun part => and_congr_right fun _ => exists_congr fun field =>
    and_congr_right fun _ => ?_
  rw [blank.searched_eq fields]
  cases page.text? (SearchField.read field).name with
  | none => simp [not_foundIn_nil]
  | some own => simp

variable {index : Index}

/-- Every document is that of the page last added at its path. -/
theorem exists_page_of_stored
    (reached : Index.run settings.similarity (operations settings site pages) = .ok index)
    {doc : DocId} {document : Document} (stored : index.document? doc = some document) :
    ∃ path markup, lastMarkup? pages path = some markup ∧ index.idOf? path = some doc ∧
      document = site.entry path (.ofMarkup markup) := by
  obtain ⟨keyed, reads⟩ := Index.keyed_of_run reached
  have known := keyed.id_of_document doc document stored
  have under := reads document.key
  rw [Index.documentUnder?, Index.idOf?, known, Option.bind_some, stored, bindings_operations]
    at under
  obtain ⟨markup, last, same⟩ := Option.map_eq_some_iff.mp under.symm
  exact ⟨document.key, markup, last, known, same.symm⟩

theorem exists_stored_of_page
    (reached : Index.run settings.similarity (operations settings site pages) = .ok index)
    {path markup : String} (last : lastMarkup? pages path = some markup) :
    ∃ doc, index.document? doc = some (site.entry path (.ofMarkup markup)) := by
  have under := (Index.keyed_of_run reached).2 path
  rw [bindings_operations, last, Option.map_some] at under
  obtain ⟨doc, -, stored⟩ := Option.bind_eq_some_iff.mp under
  exact ⟨doc, stored⟩

/-- The tokens of short pages have positions that fit in 31 bits. -/
theorem Blank.position_lt (blank : site.Blank settings)
    (short : ∀ page ∈ pages, (Page.ofMarkup page.2).Short)
    (reached : Index.run settings.similarity (operations settings site pages) = .ok index) :
    ∀ doc document field tokens, index.document? doc = some document →
      (field, tokens) ∈ document.tokens → ∀ token ∈ tokens, token.position.toNat < 2 ^ 31 := by
  intro doc document field tokens stored listed token member
  obtain ⟨path, markup, last, -, rfl⟩ := exists_page_of_stored reached stored
  obtain ⟨page, added, rfl⟩ := exists_mem_of_lastMarkup last
  have brief := short page added
  rw [blank.tokens_eq, List.mem_cons, List.mem_singleton] at listed
  rcases listed with same | same <;> cases same
  · exact Nat.lt_of_le_of_lt (settings.analyzer.position_le_of_mem_tokens member) brief.title
  · exact Nat.lt_of_le_of_lt (settings.analyzer.position_le_of_mem_tokens member) brief.body

theorem Blank.pathOf_eq (blank : site.Blank settings) {doc : DocId} {path : String} {page : Page}
    (stored : index.document? doc = some (site.entry path page)) :
    pathOf { site with index } doc = path := by
  rw [pathOf, Index.storedText?, stored, blank.fields_eq, entry, blank.fields_eq]
  rfl

theorem Blank.titleOf_eq (blank : site.Blank settings) {doc : DocId} {path : String} {page : Page}
    (stored : index.document? doc = some (site.entry path page)) :
    titleOf { site with index } doc = page.title := by
  rw [titleOf, Index.storedText?, stored, blank.fields_eq, entry, blank.fields_eq]
  rfl

/-- A hit shows the path and the title of its document. -/
theorem hit_eq_ok (site : Site) {query : Query} {why : DocId → Explanation}
    (explained : ∀ doc, site.index.explain site.index.similarity query doc = .ok (why doc))
    (explain : Bool) (found : ScoredDoc) : site.hit query explain found =
      .ok ⟨found.doc, found.score, site.pathOf found.doc, site.titleOf found.doc,
        if explain then some (why found.doc) else none⟩ := by
  cases explain with
  | false => rfl
  | true =>
    simp only [hit, ↓reduceIte, explained]
    rfl

/-- Searching counts all hits and shows some of them, each once. -/
theorem exists_results (site : Site) (small : settings.top < 2 ^ 59) {text : String} {query : Query}
    (asked : site.query settings text = .ok query) {plan : Plan} {hits : List ScoredDoc}
    (planned : site.index.plan site.index.similarity query = .ok plan)
    (found : plan.hits site.index site.index.similarity = .ok hits) :
    ∃ results, site.search settings text = .ok results ∧ results.total = hits.length ∧
      (results.hits.map Hit.doc).Subperm (hits.map ScoredDoc.doc) ∧
      ∀ hit ∈ results.hits, hit.path = site.pathOf hit.doc ∧ hit.title = site.titleOf hit.doc := by
  have each : ∀ doc, ∃ why, site.index.explain site.index.similarity query doc = .ok why := by
    intro doc
    obtain ⟨why, explained, -⟩ := Plan.exists_explanation (Index.binds_of_plan planned).placed
      (Index.coherent_of_plan planned) doc
    exact ⟨why, by rw [Index.explain, planned, Fault.ok_bind, explained]⟩
  choose why explained using each
  refine ⟨⟨text, hits.length, ((Collector.ranking settings.top).collectAll hits []).map fun found =>
    ⟨found.doc, found.score, site.pathOf found.doc, site.titleOf found.doc,
      if settings.explain then some (why found.doc) else none⟩⟩, ?_, rfl, ?_, ?_⟩
  · simp only [search, asked, Collector.best_of_lt small, Index.search_eq_ok planned found,
      Collector.collectAll_count_both_ranking, Fault.ok_bind, Nat.zero_add,
      Fault.mapM_eq_ok fun found _ => hit_eq_ok site explained settings.explain found]
    rfl
  · rw [List.map_map]
    obtain ⟨some, perm, inside⟩ := Collector.collectAll_ranking_subperm settings.top hits []
    exact ⟨some.map ScoredDoc.doc, perm.map _, inside.map _⟩
  · rw [List.forall_mem_map]
    exact fun found _ => ⟨rfl, rfl⟩

theorem search_eq_error {site : Site} (small : settings.top < 2 ^ 59) {text : String}
    {query : Query} (asked : site.query settings text = .ok query) {reason : Fault}
    (failed : site.index.plan site.index.similarity query = .error reason) :
    site.search settings text = .error reason := by
  simp only [search, asked, Collector.best_of_lt small, (Index.plan_eq_error failed).2,
    Fault.ok_bind, Fault.error_bind]

/-- There is no search for more hits than there is memory for. -/
theorem search_of_le (site : Site) (large : 2 ^ 59 ≤ settings.top) {text : String} {query : Query}
    (asked : site.query settings text = .ok query) :
    site.search settings text = .error .capacityOverflow := by
  rw [search, asked, Fault.ok_bind, Collector.best_of_le large, Fault.error_bind]

/-- A hit is a document of a page that answers the query. -/
def PageHit (site : Site) (index : Index) (pages : List (Path × String)) (settings : Settings)
    (text : String) (doc : DocId) (path markup : String) : Prop :=
  lastMarkup? pages path = some markup ∧ (Page.ofMarkup markup).Answers settings text ∧
    index.document? doc = some (site.entry path (.ofMarkup markup))

/-- The hits of a search are the documents of the pages that answer the query. -/
theorem Blank.exists_hits (blank : site.Blank settings)
    (short : ∀ page ∈ pages, (Page.ofMarkup page.2).Short)
    (reached : Index.run settings.similarity (operations settings site pages) = .ok index)
    {text : String} (brief : ShortPhrases text) {plan : Plan}
    (binds : plan.Binds index (.asked text settings.fields settings.analyzer)) :
    ∃ hits, plan.hits index index.similarity = .ok hits ∧ (hits.map ScoredDoc.doc).Nodup ∧
      ∀ doc, doc ∈ hits.map ScoredDoc.doc ↔
        ∃ path markup, PageHit site index pages settings text doc path markup := by
  have sound : index.Sound := Index.sound_of_run reached
  have complete : index.Complete :=
    Index.complete_of_run (fieldsFirst_operations settings site pages) reached
  have fields := schema_fields_eq reached
  have regular : (Query.asked text settings.fields settings.analyzer).Regular :=
    Query.regular_asked fun phrase quoted token member =>
      Nat.lt_of_le_of_lt (settings.analyzer.position_le_of_mem_tokens member) (brief phrase quoted)
  obtain ⟨hits, found, distinct, mem_hits_iff⟩ :=
    binds.exists_hits sound complete (blank.position_lt short reached) regular index.similarity
  refine ⟨hits, found, distinct, fun doc => ?_⟩
  rw [mem_hits_iff]
  constructor
  · rintro ⟨document, stored, satisfied⟩
    obtain ⟨path, markup, last, -, rfl⟩ := exists_page_of_stored reached stored
    exact ⟨path, markup, last, (blank.satisfied_iff fields path _ text).mp satisfied, stored⟩
  · rintro ⟨path, markup, -, answers, stored⟩
    exact ⟨_, stored, (blank.satisfied_iff fields path _ text).mpr answers⟩

/-- What is shown of the hits is told by the pages that answer the query. -/
theorem Blank.report_of_hits (blank : site.Blank settings)
    (reached : Index.run settings.similarity (operations settings site pages) = .ok index)
    {text : String} {docs : List DocId} (distinct : docs.Nodup)
    (mem_docs_iff : ∀ doc, doc ∈ docs ↔
      ∃ path markup, PageHit site index pages settings text doc path markup)
    {results : Results} (total : results.total = docs.length)
    (shown : (results.hits.map Hit.doc).Subperm docs)
    (named : ∀ hit ∈ results.hits, hit.path = pathOf { site with index } hit.doc ∧
      hit.title = titleOf { site with index } hit.doc) :
    results.Report pages settings text := by
  obtain ⟨keyed, -⟩ := Index.keyed_of_run reached
  -- different hits are at different paths
  have apart : ∀ doc ∈ docs, ∀ other ∈ docs,
      pathOf { site with index } doc = pathOf { site with index } other → doc = other := by
    intro doc first other second same
    obtain ⟨path, markup, -, -, stored⟩ := (mem_docs_iff doc).mp first
    obtain ⟨place, page, -, -, there⟩ := (mem_docs_iff other).mp second
    rw [blank.pathOf_eq stored, blank.pathOf_eq there] at same
    have known := keyed.id_of_document doc _ stored
    have here := keyed.id_of_document other _ there
    have key : (site.entry path (.ofMarkup markup)).key =
      (site.entry place (.ofMarkup page)).key := same
    rw [key, here] at known
    exact (Option.some.inj known).symm
  have mem_paths_iff : ∀ path, path ∈ docs.map (pathOf { site with index }) ↔
      AnsweredAt pages settings text path := by
    intro path
    rw [List.mem_map]
    constructor
    · rintro ⟨doc, member, rfl⟩
      obtain ⟨path, markup, last, answers, stored⟩ := (mem_docs_iff doc).mp member
      rw [blank.pathOf_eq stored]
      exact ⟨markup, last, answers⟩
    · rintro ⟨markup, last, answers⟩
      obtain ⟨doc, stored⟩ := exists_stored_of_page reached last
      exact ⟨doc, (mem_docs_iff doc).mpr ⟨path, markup, last, answers, stored⟩,
        blank.pathOf_eq stored⟩
  refine ⟨?_, ?_, fun hit member => ?_⟩
  · rw [ncard_eq_length (distinct.map_on apart) mem_paths_iff, List.length_map, total]
  · have paths : results.hits.map Hit.path =
        (results.hits.map Hit.doc).map (pathOf { site with index }) := by
      rw [List.map_map]
      exact List.map_congr_left fun hit member => (named hit member).1
    obtain ⟨some, perm, inside⟩ := id shown
    rw [paths]
    refine List.Nodup.map_on (fun doc first other second => ?_)
      (perm.nodup_iff.mp (distinct.sublist inside))
    exact apart doc (shown.subset first) other (shown.subset second)
  · obtain ⟨path, markup, last, answers, stored⟩ :=
      (mem_docs_iff hit.doc).mp (shown.subset (List.mem_map_of_mem member))
    obtain ⟨at_path, titled⟩ := named hit member
    rw [blank.pathOf_eq stored] at at_path
    rw [blank.titleOf_eq stored] at titled
    exact ⟨markup, at_path ▸ last, answers, titled⟩

/-- What a search counts is the total of its results. -/
theorem exists_total (small : settings.top < 2 ^ 59)
    (short : ∀ page ∈ pages, (Page.ofMarkup page.2).Short) {text : String}
    (readable : Query.Readable text) {count : Nat}
    (counted : ((ofSettings settings).toOption.bind fun site =>
      (site.addPages pages).toOption.bind fun site =>
        (site.index.search site.index.similarity (.asked text settings.fields settings.analyzer)
          .count 0).toOption) = some count) :
    ∃ site results, ofSettings settings = .ok site ∧
      (site.addPages pages >>= (·.search settings text)) = .ok results ∧
      results.total = count := by
  obtain ⟨site, made, blank⟩ := exists_ofSettings settings
  rw [made, Except.toOption, Option.bind_some] at counted
  rcases blank.addPages_cases short with ⟨index, added, reached⟩ | ⟨failed, -⟩
  case inr =>
    rw [failed] at counted
    cases counted
  rw [added, Except.toOption, Option.bind_some] at counted
  cases planned : index.plan index.similarity
      (.asked text settings.fields settings.analyzer) with
  | error reason =>
    rw [(Index.plan_eq_error planned).2] at counted
    cases counted
  | ok plan =>
    obtain ⟨hits, found, -⟩ : ∃ hits, plan.hits index index.similarity = .ok hits ∧ _ :=
      Plan.exists_hits (Index.binds_of_plan planned).placed
    rw [Index.search_eq_ok planned found, Collector.collectAll_count, Nat.zero_add] at counted
    have asked : { site with index }.query settings text =
        .ok (.asked text settings.fields settings.analyzer) := by
      rw [query, blank.analyzer_eq, Query.ofText_of_readable _ _ readable]
    obtain ⟨results, searched, total, -⟩ :=
      exists_results { site with index } small asked planned found
    refine ⟨site, results, made, ?_, total.trans (Option.some.inj counted)⟩
    rw [added, Fault.ok_bind, searched]

theorem top_standard_lt : Settings.standard.top < 2 ^ 59 := by decide

/-- A page that replaces another one at its path. -/
def henPages : List (Path × String) := [
  (.ofString "hen.html", "<title>Fox</title><body>A fox</body>"),
  (.ofString "hen.html", "<title>Hen</title><body>The red hen</body>")]

theorem short_henPages : ∀ page ∈ henPages, (Page.ofMarkup page.2).Short := by decide +kernel

theorem shortPhrases_redHen : ShortPhrases "fox \"red hen\"" := by
  have parts : QueryPart.scan "fox \"red hen\"".toList =
    [.word "fox".toList, .phrase "red hen".toList] := by decide +kernel
  intro phrase quoted
  rw [parts] at quoted
  simp only [List.mem_cons, reduceCtorEq, QueryPart.phrase.injEq, List.not_mem_nil, or_false,
    false_or] at quoted
  subst quoted
  decide +kernel

/-- Two letters that are far apart, with stop words between them. -/
def farApart (count : Nat) : List Char :=
  spaced ('x' :: List.replicate count 'a' ++ ['y'])

theorem plain_farApart (count : Nat) :
    ∀ c ∈ 'x' :: List.replicate count 'a' ++ ['y'], IsPlainLetter c := by
  have each : IsPlainLetter 'x' ∧ IsPlainLetter 'a' ∧ IsPlainLetter 'y' := by decide +kernel
  intro c member
  simp only [List.cons_append, List.mem_cons, List.mem_append, List.mem_replicate,
    List.not_mem_nil, or_false] at member
  rcases member with rfl | ⟨-, rfl⟩ | rfl
  · exact each.1
  · exact each.2.1
  · exact each.2.2

theorem words_farApart (count : Nat) :
    words (farApart count) = ['x'] :: List.replicate count ['a'] ++ [['y']] := by
  rw [farApart, words_spaced (plain_farApart count)]
  simp

theorem tokens_farApart (count : Nat) : Analyzer.standard.tokens (farApart count) =
    [⟨.ofText ['x'], 1⟩, ⟨.ofText ['y'], .ofNat (count + 2)⟩] := by
  have stop : ∀ word ∈ List.replicate count ['a'],
      (Term.ofText word).lowercase.isStopWord = true := by
    intro word member
    rw [List.eq_of_mem_replicate member]
    decide +kernel
  rw [Analyzer.tokens_of_stops (words_farApart count) stop (by decide +kernel) (by decide +kernel),
    List.length_replicate]
  have first : (Term.ofText ['x']).lowercase = .ofText ['x'] := by decide +kernel
  have last : (Term.ofText ['y']).lowercase = .ofText ['y'] := by decide +kernel
  rw [first, last]

def phraseApart (count : Nat) : String :=
  .ofList ('"' :: (farApart count ++ ['"']))

theorem scan_phraseApart (count : Nat) :
    QueryPart.scan (phraseApart count).toList = [.phrase (farApart count)] := by
  have unquoted : '"' ∉ farApart count := by
    intro member
    have other : '"' ≠ ' ' ∧ ¬ IsPlainLetter '"' := by decide +kernel
    rcases isPlainLetter_of_mem_spaced (plain_farApart count) member with blank | plain
    · exact other.1 blank
    · exact other.2 plain
  rw [phraseApart, String.toList_ofList, QueryPart.scan_phrase unquoted, QueryPart.scan]

theorem readable_phraseApart {count : Nat} (few : count + 4 < UInt32.size) :
    Query.Readable (phraseApart count) := by
  rw [Query.Readable, scan_phraseApart, List.forall_mem_singleton, QueryPart.text_phrase,
    Enumerable, words_farApart]
  simpa using few

theorem asked_phraseApart (count : Nat) (fields : List String) :
    Query.asked (phraseApart count) fields .standard =
      .any [Query.inFields (fields.map SearchField.read) fun field =>
        .ofTokens field [⟨.ofText ['x'], 1⟩, ⟨.ofText ['y'], .ofNat (count + 2)⟩] 0] := by
  rw [Query.asked, scan_phraseApart, List.flatMap_singleton, QueryPart.tokens,
    QueryPart.text_phrase, tokens_farApart]
  rfl

/-- A page with both letters, close together and in the other order. -/
def closePages : List (Path × String) := [
  (.ofString "close.html", "<title>Letters</title><body>y b c d x</body>")]

theorem short_closePages : ∀ page ∈ closePages, (Page.ofMarkup page.2).Short := by decide +kernel

/-- Different paths that are shown alike. -/
def alikePages : List (Path × String) := [
  (⟨[0xff]⟩, "<title>Hen</title><body>The red hen</body>"),
  (⟨[0xfe]⟩, "<title>Hen</title><body>The red hen</body>")]

/-- A distance from the fifth word on leads beyond the last position. -/
theorem not_standsIn_of_late {own : List Token}
    (late : ∀ token ∈ own, token.term = .ofText ['x'] → 4 < token.position.toNat) :
    ¬ StandsIn (Analyzer.standard.tokens (farApart (2 ^ 32 - 5))) own := by
  rw [tokens_farApart]
  rintro ⟨shift, each⟩
  rw [List.forall_mem_cons, List.forall_mem_singleton] at each
  obtain ⟨⟨start, member, first⟩, position, -, second⟩ := each
  have after : 4 < start.toNat := late _ member rfl
  have bound := position.toNat_lt
  have one : (1 : UInt32).toNat = 1 := rfl
  have last : (UInt32.ofNat (2 ^ 32 - 5 + 2)).toNat = 2 ^ 32 - 3 := by decide
  simp only [one, last] at first second
  omega

theorem not_answeredAt_closePages (path : String) :
    ¬ AnsweredAt closePages .standard (phraseApart (2 ^ 32 - 5)) path := by
  rintro ⟨markup, last, part, scanned, field, -, text, read, found⟩
  obtain ⟨page, member, rfl⟩ := exists_mem_of_lastMarkup last
  obtain rfl := List.mem_singleton.mp member
  rw [scan_phraseApart, List.mem_singleton] at scanned
  subst scanned
  have late : ∀ text ∈ ["Letters", "y b c d x"], ∀ token ∈ Analyzer.standard.tokens text.toList,
      token.term = .ofText ['x'] → 4 < token.position.toNat := by decide +kernel
  have texts : text ∈ ["Letters", "y b c d x"] := by
    have title : (Page.ofMarkup "<title>Letters</title><body>y b c d x</body>").title =
      "Letters" := by decide +kernel
    have body : (Page.ofMarkup "<title>Letters</title><body>y b c d x</body>").body =
      "y b c d x" := by decide +kernel
    simp only [Page.text?, title, body] at read
    split at read
    · cases read
      exact List.mem_cons_self
    · split at read
      · cases read
        exact List.mem_cons_of_mem _ (List.mem_singleton_self _)
      · cases read
  exact not_standsIn_of_late (late text texts) found.2

theorem short_alikePages : ∀ page ∈ alikePages, (Page.ofMarkup page.2).Short := by decide +kernel

theorem answers_alikePages :
    ∀ page ∈ alikePages, (Page.ofMarkup page.2).Answers .standard "hen" := by
  intro page member
  have texts : ∀ page ∈ alikePages, (Page.ofMarkup page.2).title = "Hen" := by decide +kernel
  have scanned : .word "hen".toList ∈ QueryPart.scan "hen".toList := by decide +kernel
  refine ⟨_, scanned, "title", by decide, "Hen", ?_, ?_⟩
  · rw [← texts page member]
    rfl
  · change ∃ token ∈ Settings.standard.analyzer.tokens "hen".toList,
      token.term ∈ (Settings.standard.analyzer.tokens "Hen".toList).map Token.term
    decide +kernel

end Site

end Relevance
