import Mathlib.Data.List.Nodup
import Requisite.Crawl
import Requisite.Proofs.Expr.Descent

/-!
# What each course contributes to a crawl

A crawl goes through its targets, lists the courses of each and visits them, and anything may fail
on the way. What it collects is a fold all the same (`Crawler.accumulator_run`), over what the
visits to the listed courses find: nothing, the course alone, or the course and its graph
(`Crawler.found`). A page that fails lists nothing (`Crawler.onPage`), and so does a target whose
number of pages is not to be had (`Crawler.pages`). The requests of a crawl follow from the same
functions.
-/

namespace Requisite

open Schedule

namespace Crawler

/-! ## What is found -/

/-- What a visit to a course finds. -/
inductive Found where
  /-- Its summary is not to be had. -/
  | nothing
  /-- There is the course, but its requisites are not to be had, or not to be understood. -/
  | course (c : Course)
  /-- There are the course and its graph. -/
  | graph (c : Course) (g : Graph)
  deriving DecidableEq, Repr

/-- The accumulator after what is found is recorded. -/
def Found.onto (acc : Accumulator) : Found → Accumulator
  | .nothing => acc
  | .course c => acc.bindCourse c
  | .graph c g => (acc.bindCourse c).merge g

/-- The graph that is found, if one is. -/
def Found.graph? : Found → Option Graph
  | .graph _ g => some g
  | _ => none

/-- The summary of a course, if it is to be had. -/
def summary (crawler : Crawler) (t : Target) (catalog : String) : Except Failure Summary :=
  (crawler.settings.summaryQuery t.quarter t.subject catalog).bind fun q => q.result crawler.site

/-- The course that a summary is about. -/
def courseOf (t : Target) (catalog : String) (summary : Summary) : Course :=
  { subject := t.subject, catalog, name := some summary.name }

/-- The graph of a course, if its rows are to be had and their expression is accepted. -/
def graphOf (crawler : Crawler) (c : Course) (tooltip : String) : Except Failure Graph :=
  ((crawler.settings.requisiteRowsQuery tooltip).result crawler.site).bind fun rows =>
    (Graph.ofText c.nodeId (Row.encodeAll crawler.index rows)).mapError .expression

/-- What there is to be found of a course. -/
def found (crawler : Crawler) (t : Target) (catalog : String) : Found :=
  match crawler.summary t catalog with
  | .error _ => .nothing
  | .ok summary =>
    match crawler.graphOf (courseOf t catalog summary) summary.tooltip with
    | .error _ => .course (courseOf t catalog summary)
    | .ok g => .graph (courseOf t catalog summary) g

/-- The requests of a visit to a course: for its summary, and for the requisites that it leads
to. -/
def asked (crawler : Crawler) (t : Target) (catalog : String) : List Request :=
  match crawler.settings.summaryQuery t.quarter t.subject catalog with
  | .error _ => []
  | .ok q => q.request :: match q.result crawler.site with
    | .error _ => []
    | .ok summary => [(crawler.settings.requisiteRowsQuery summary.tooltip).request]

/-- The query for the number of pages of a target. -/
def countQuery (crawler : Crawler) (t : Target) : Query Int :=
  crawler.settings.pageCountQuery t.quarter t.subject

/-- The query for a page of a target. -/
def pageQuery (crawler : Crawler) (t : Target) (page : Int) : Query (List String) :=
  crawler.settings.catalogNumbersQuery t.quarter t.subject (toString page)

/-- The pages of a target; none where their number is not to be had. -/
def pages (crawler : Crawler) (t : Target) : List Int :=
  match (crawler.countQuery t).result crawler.site with
  | .error _ => []
  | .ok count => pageNumbers count

/-- The catalog numbers on a page; none where it is not to be had. -/
def onPage (crawler : Crawler) (t : Target) (page : Int) : List String :=
  ((crawler.pageQuery t page).result crawler.site).toOption.getD []

/-- The catalog numbers that the pages of a target list, in order and each once. -/
def listed (crawler : Crawler) (t : Target) : List String :=
  firsts id ((crawler.pages t).flatMap (crawler.onPage t))

/-- What a target contributes: what is found of the courses that it lists, in order. -/
def contribution (crawler : Crawler) (t : Target) : List Found :=
  (crawler.listed t).map (crawler.found t)

variable (crawler : Crawler) (t : Target)

/-! ## Visits -/

/-- A visit records what is found, asks for the summary and then for the requisites, and succeeds
exactly if a graph is found. -/
theorem visit_spec (catalog : String) (p : Progress) :
    (crawler.visit t catalog p).1.accumulator = (crawler.found t catalog).onto p.accumulator ∧
      (crawler.visit t catalog p).1.requests = p.requests ++ crawler.asked t catalog ∧
      (crawler.visit t catalog p).2.isOk = (crawler.found t catalog).graph?.isSome := by
  rw [visit, found, summary, asked]
  cases crawler.settings.summaryQuery t.quarter t.subject catalog with
  | error failure => exact ⟨rfl, (List.append_nil _).symm, rfl⟩
  | ok q =>
    dsimp only [Except.bind]
    cases q.result crawler.site with
    | error failure => exact ⟨rfl, rfl, rfl⟩
    | ok summary =>
      dsimp only [graphOf, courseOf]
      cases (crawler.settings.requisiteRowsQuery summary.tooltip).result crawler.site with
      | error failure => exact ⟨rfl, List.append_assoc _ _ _, rfl⟩
      | ok rows =>
        dsimp only [Except.bind]
        cases Graph.ofText _ (Row.encodeAll crawler.index rows) with
        | error fault => exact ⟨rfl, List.append_assoc _ _ _, rfl⟩
        | ok graph => exact ⟨rfl, List.append_assoc _ _ _, rfl⟩

/-- A visit records what is found. -/
theorem accumulator_visit (catalog : String) (p : Progress) :
    (crawler.visit t catalog p).1.accumulator = (crawler.found t catalog).onto p.accumulator :=
  (crawler.visit_spec t catalog p).1

/-- A visit asks for the summary, and then for the requisites. -/
theorem requests_visit (catalog : String) (p : Progress) :
    (crawler.visit t catalog p).1.requests = p.requests ++ crawler.asked t catalog :=
  (crawler.visit_spec t catalog p).2.1

/-- A visit succeeds exactly if a graph is found. -/
theorem isOk_visit (catalog : String) (p : Progress) :
    (crawler.visit t catalog p).2.isOk = (crawler.found t catalog).graph?.isSome :=
  (crawler.visit_spec t catalog p).2.2

/-- Visits record what is found, one after the other, whether they fail or not. -/
theorem accumulator_visitAll (catalogs : List String) (tally : Tally) (p : Progress) :
    (crawler.visitAll t catalogs tally p).1.accumulator =
      (catalogs.map (crawler.found t)).foldl Found.onto p.accumulator := by
  induction catalogs generalizing tally p with
  | nil => rfl
  | cons catalog catalogs ih =>
    rw [visitAll, List.map_cons, List.foldl_cons, ← accumulator_visit]
    rcases crawler.visit t catalog p with ⟨after, _ | _⟩
    · exact ih _ _
    · exact ih _ _

/-- Visits ask for each course, whether they fail or not. -/
theorem requests_visitAll (catalogs : List String) (tally : Tally) (p : Progress) :
    (crawler.visitAll t catalogs tally p).1.requests =
      p.requests ++ catalogs.flatMap (crawler.asked t) := by
  induction catalogs generalizing tally p with
  | nil => exact (List.append_nil _).symm
  | cons catalog catalogs ih =>
    rw [visitAll, List.flatMap_cons, ← List.append_assoc, ← requests_visit]
    rcases crawler.visit t catalog p with ⟨after, _ | _⟩
    · exact ih _ _
    · exact ih _ _

/-! ## Listings -/

/-- Reading pages records nothing. -/
theorem accumulator_readPages (pages : List Int) (p : Progress) :
    (crawler.readPages t pages p).1.accumulator = p.accumulator := by
  induction pages generalizing p with
  | nil => rfl
  | cons page pages ih =>
    rw [readPages]
    dsimp only
    split
    · exact ih _
    · exact ih _

/-- Reading pages asks for each of them. -/
theorem requests_readPages (pages : List Int) (p : Progress) :
    (crawler.readPages t pages p).1.requests =
      p.requests ++ pages.map fun page => (crawler.pageQuery t page).request := by
  induction pages generalizing p with
  | nil => simp [readPages]
  | cons page pages ih =>
    rw [readPages, List.map_cons, ← List.singleton_append, ← List.append_assoc]
    dsimp only
    split
    · exact ih _
    · exact ih _

/-- The pages that are kept of those that come in, with what is on them: all but those that fail. -/
def kept (outcome : Int → Except Failure (List String)) (order : List Int) :
    List (Int × List String) :=
  order.filterMap fun page => (outcome page).toOption.map fun numbers => (page, numbers)

/-- The pages that are read one by one are kept in this order. -/
theorem snd_readPages (pages : List Int) (p : Progress) :
    (crawler.readPages t pages p).2 =
      kept (fun page => (crawler.pageQuery t page).result crawler.site) pages := by
  rw [kept]
  induction pages generalizing p with
  | nil => rfl
  | cons page pages ih =>
    rw [readPages, List.filterMap_cons, pageQuery]
    dsimp only
    split
    next numbers hok => rw [hok, ih]; rfl
    next failure herror => rw [herror, ih]; rfl

/-- What is kept is on the pages that were asked for. -/
theorem flatMap_kept (outcome : Int → Except Failure (List String)) (pages : List Int) :
    (kept outcome pages).flatMap Prod.snd =
      pages.flatMap fun page => (outcome page).toOption.getD [] := by
  rw [kept]
  induction pages with
  | nil => rfl
  | cons page pages ih =>
    rw [List.filterMap_cons, List.flatMap_cons]
    cases (outcome page).toOption with
    | none => exact ih
    | some numbers => exact congrArg (numbers ++ ·) ih

/-- Pages come in page order in the end, in whichever order they come in. -/
theorem inPageOrder_kept (outcome : Int → Except Failure (List String)) {pages order : List Int}
    (hpages : pages.Pairwise (· < ·)) (h : order.Perm pages) :
    inPageOrder (kept outcome order) =
      firsts id (pages.flatMap fun page => (outcome page).toOption.getD []) := by
  have hsorted : (kept outcome pages).Pairwise fun a b => a.1 < b.1 := by
    refine hpages.filterMap _ fun page page' hlt a ha a' ha' => ?_
    obtain ⟨numbers, -, rfl⟩ := Option.map_eq_some_iff.1 ha
    obtain ⟨numbers', -, rfl⟩ := Option.map_eq_some_iff.1 ha'
    exact hlt
  -- No two of them are of one page, so that there is only one way to sort them.
  have hkeys : ((kept outcome pages).map Prod.fst).Nodup :=
    List.pairwise_map.2 (hsorted.imp Int.ne_of_lt)
  have hperm : ((kept outcome order).mergeSort fun a b => a.1 ≤ b.1).Perm (kept outcome pages) :=
    (List.mergeSort_perm _ _).trans (h.filterMap _)
  have hsort : ((kept outcome order).mergeSort fun a b => a.1 ≤ b.1).Pairwise
      fun a b => a.1 ≤ b.1 := by
    have hpairwise : ((kept outcome order).mergeSort fun a b => a.1 ≤ b.1).Pairwise
        fun a b => decide (a.1 ≤ b.1) = true :=
      List.pairwise_mergeSort
        (fun a b c hab hbc => by simp only [decide_eq_true_eq] at hab hbc ⊢; omega)
        (fun a b => by simp only [Bool.or_eq_true, decide_eq_true_eq]; omega) _
    exact hpairwise.imp of_decide_eq_true
  have heq := hperm.eq_of_pairwise (fun a b ha hb hab hba =>
    List.inj_on_of_nodup_map hkeys (hperm.mem_iff.1 ha) hb (Int.le_antisymm hab hba)) hsort
    (hsorted.imp Int.le_of_lt)
  rw [inPageOrder, heq, flatMap_kept]

/-- Pages that are asked for in order come in page order. -/
theorem inPageOrder_readPages {pages : List Int} (h : pages.Pairwise (· < ·)) (p : Progress) :
    inPageOrder (crawler.readPages t pages p).2 =
      firsts id (pages.flatMap (crawler.onPage t)) := by
  rw [snd_readPages]
  exact inPageOrder_kept _ h (.refl _)

/-- The numbers of pages are in order. -/
theorem pairwise_pageNumbers (count : Int) : (pageNumbers count).Pairwise (· < ·) := by
  rw [pageNumbers, List.pairwise_map]
  refine List.pairwise_lt_range.imp fun hlt => ?_
  omega

/-- Listing records nothing. -/
theorem accumulator_list (p : Progress) :
    (crawler.list t p).1.accumulator = p.accumulator := by
  rw [list]
  dsimp only
  split
  · rfl
  · split
    · rfl
    · exact accumulator_readPages crawler t _ _

/-- Listing asks for the number of pages, and for each page. -/
theorem requests_list (p : Progress) :
    (crawler.list t p).1.requests = p.requests ++ (crawler.countQuery t).request ::
      (crawler.pages t).map fun page => (crawler.pageQuery t page).request := by
  rw [list, pages, countQuery]
  cases (crawler.settings.pageCountQuery t.quarter t.subject).result crawler.site with
  | error failure => rfl
  | ok count =>
    dsimp only
    by_cases hzero : count = 0
    · rw [if_pos hzero, hzero]
      rfl
    · rw [if_neg hzero, requests_readPages]
      exact List.append_assoc _ _ _

/-- A target is listed, if the number of its pages is to be had. -/
theorem snd_list (p : Progress) :
    (crawler.list t p).2 =
      ((crawler.countQuery t).result crawler.site).map fun _ => crawler.listed t := by
  rw [list, listed, pages, countQuery]
  cases (crawler.settings.pageCountQuery t.quarter t.subject).result crawler.site with
  | error failure => rfl
  | ok count =>
    dsimp only
    by_cases hzero : count = 0
    · rw [if_pos hzero, hzero]
      rfl
    · have hinOrder := pairwise_pageNumbers count
      rw [if_neg hzero]
      exact congrArg Except.ok (inPageOrder_readPages crawler t hinOrder _)

/-- A target whose number of pages is not to be had lists nothing. -/
theorem listed_of_error {failure : Failure}
    (h : (crawler.countQuery t).result crawler.site = .error failure) : crawler.listed t = [] := by
  rw [listed, pages, h]
  rfl

/-! ## Targets -/

/-- A crawl of a target ends as the visits to the courses that it lists, after the listing. -/
theorem fst_crawlTarget (p : Progress) :
    ∃ tally notices, (crawler.crawlTarget t p).1 =
      ((crawler.visitAll t (crawler.listed t) tally (crawler.list t p).1).1.note notices) := by
  have hlist := crawler.snd_list t p
  rw [crawlTarget]
  rcases hp : crawler.list t p with ⟨after, outcome⟩
  rw [hp] at hlist
  change outcome = _ at hlist
  cases hcount : (crawler.countQuery t).result crawler.site with
  | error failure =>
    -- Nothing is listed, so nothing is visited.
    obtain rfl : outcome = .error failure := by rw [hlist, hcount]; rfl
    rw [crawler.listed_of_error t hcount]
    refine ⟨{}, [], ?_⟩
    rw [visitAll, Progress.note, List.append_nil]
  | ok count =>
    obtain rfl : outcome = .ok (crawler.listed t) := by rw [hlist, hcount]; rfl
    exact ⟨{}, _, rfl⟩

/-- A crawl of a target adds what the target contributes. -/
theorem accumulator_crawlTarget (p : Progress) :
    (crawler.crawlTarget t p).1.accumulator =
      (crawler.contribution t).foldl Found.onto p.accumulator := by
  obtain ⟨tally, notices, htarget⟩ := crawler.fst_crawlTarget t p
  rw [htarget, Progress.note]
  dsimp only
  rw [accumulator_visitAll, accumulator_list, contribution]

/-- A crawl of a target asks what its listing asks, and then for each course that is listed. -/
theorem requests_crawlTarget (p : Progress) :
    (crawler.crawlTarget t p).1.requests =
      (crawler.list t p).1.requests ++ (crawler.listed t).flatMap (crawler.asked t) := by
  obtain ⟨tally, notices, htarget⟩ := crawler.fst_crawlTarget t p
  rw [htarget]
  exact crawler.requests_visitAll t (crawler.listed t) tally _

/-- One more target is crawled, and then its failure may be reported. -/
theorem advance_eq (p : Progress) :
    ∃ notices, crawler.advance p t = (crawler.crawlTarget t p).1.note notices := by
  rw [advance]
  rcases crawler.crawlTarget t p with ⟨after, failure | tally⟩
  · exact ⟨_, rfl⟩
  · refine ⟨[], ?_⟩
    rw [Progress.note, List.append_nil]

/-- A target adds what it contributes. -/
theorem accumulator_advance (p : Progress) :
    (crawler.advance p t).accumulator =
      (crawler.contribution t).foldl Found.onto p.accumulator := by
  obtain ⟨notices, hadvance⟩ := crawler.advance_eq t p
  rw [hadvance, ← accumulator_crawlTarget]
  rfl

/-- A crawl adds what its targets contribute, one after the other. -/
theorem accumulator_run (targets : List Target) (start : Progress) :
    (crawler.run targets start).accumulator =
      (targets.flatMap crawler.contribution).foldl Found.onto start.accumulator := by
  rw [run]
  induction targets generalizing start with
  | nil => rfl
  | cons t targets ih =>
    rw [List.foldl_cons, ih, accumulator_advance, List.flatMap_cons, List.foldl_append]

/-! ## A small schedule -/

/-- The addresses of a small schedule. -/
def smallSettings : Settings where
  baseUrl := "b"
  landingUrl := "quarters"
  searchUrl := "subjects"
  resultsUrl := "pages"
  titlesUrl := "titles"
  summaryUrl := "summary"

/-- Its only quarter and subject area. -/
def smallTarget : Target := ⟨"W", "M"⟩

/-- It has two pages of courses, of which the second lists the courses `1` and `2`. There is a
summary of the first of these only, which needs the course `3`. -/
def smallSite (firstPage : Except Failure Response) : Site := fun r =>
  if r.url = "quarters" then .ok { text := "<select id=optSelectTerm><option value=W>Winter" }
  else if r.url = "subjects" then
    .ok { text := "SearchPanelSetup('[\x7b\"label\": \"Math (M)\", \"value\": \"M\"\x7d]')" }
  else if r.url = "pages" then .ok { text := "<input id=pageCount value=2>" }
  else if r.url = "titles" then
    if r.params.any fun params => params.contains ("pageNumber", "1") then firstPage
    else .ok { text := "<div class=class-title><button>1 - A</button><button>2 - B" }
  else if r.url = "summary" then
    .ok { text := "<div class=\"class-not-checked class-info\" id=c><div id=c-enroll>" ++
      "<label>1 - A U 4</label><div id=c-section><a href=1>" }
  else
    .ok { text := "<table class=requisites_content><tbody><tr class=requisite>" ++
      "<td>Math 3<td><td><td><td>" }

/-- A crawl of the schedule. -/
def smallCrawler (firstPage : Except Failure Response) : Crawler where
  site := smallSite firstPage
  settings := smallSettings
  index := .ofPairs [(some "M", some "Math")]

/-- The course with a summary. -/
def smallCourse : Course where
  subject := "M"
  catalog := "1"
  name := some "A"

/-- Its graph. -/
def smallGraph : Graph where
  nodes := [⟨"M#3", .value⟩]
  courses := [{ subject := "M", catalog := "3" }]
  relations := [{ source := "M#1", target := "M#3" }]
  root := some "M#3"

/-- The course is found with its graph. -/
theorem found_smallCrawler :
    (smallCrawler (.error .broken)).found smallTarget "1" = .graph smallCourse smallGraph := by
  have hsummary : (smallCrawler (.error .broken)).summary smallTarget "1" = .ok ⟨"A", "b1"⟩ := by
    decide +kernel
  have hrows : ((smallCrawler (.error .broken)).settings.requisiteRowsQuery "b1").result
      (smallCrawler (.error .broken)).site = .ok [{ expression := "Math 3" }] := by
    decide +kernel
  have htext : Row.encodeAll (smallCrawler (.error .broken)).index [{ expression := "Math 3" }] =
      "M#3{tfff}" := by
    decide +kernel
  have htokens : tokens "M#3{tfff}" = [⟨.requisite, "M#3{tfff}", 0⟩] := by decide +kernel
  have hgraph : Graph.ofText smallCourse.nodeId "M#3{tfff}" = .ok smallGraph :=
    Graph.ofText_of_leaf (by decide) htokens rfl rfl
  have hgraphOf : (smallCrawler (.error .broken)).graphOf smallCourse "b1" = .ok smallGraph := by
    rw [graphOf, hrows]
    dsimp only [Except.bind]
    rw [htext, hgraph]
    rfl
  have hcourse : courseOf smallTarget "1" ⟨"A", "b1"⟩ = smallCourse := rfl
  rw [found, hsummary]
  dsimp only
  rw [hcourse, hgraphOf]

/-- The other course is not found. -/
theorem nothing_smallCrawler :
    (smallCrawler (.error .broken)).found smallTarget "2" = .nothing := by
  decide +kernel

/-- This is what a crawl collects if the first page is broken. -/
theorem contribution_smallCrawler : (smallCrawler (.error .broken)).contribution smallTarget =
    [.graph smallCourse smallGraph, .nothing] := by
  have hlisted : (smallCrawler (.error .broken)).listed smallTarget = ["1", "2"] := by
    decide +kernel
  rw [contribution, hlisted, List.map_cons, List.map_singleton, found_smallCrawler,
    nothing_smallCrawler]

end Crawler

end Requisite
