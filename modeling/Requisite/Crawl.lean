import Requisite.Accumulator
import Requisite.Expr.Graph
import Requisite.Schedule.Client

/-!
# The crawl

A crawl visits targets, each a quarter and a subject area. It asks for the number of result pages,
for the catalog numbers on each page, and for the summary and the requisites of each course, and
collects all graphs in one accumulator. What fails is reported and left out: a page, a course or a
target that fails takes nothing else with it, and a course whose requisites fail is still recorded.
-/

namespace Requisite

open Schedule

/-- A quarter and a subject area to visit. -/
structure Target where
  quarter : String
  subject : String
  deriving DecidableEq, Repr

/-- How far a crawl has come. -/
structure Progress where
  accumulator : Accumulator := {}
  /-- All requests so far, in order. -/
  requests : List Request := []
  /-- All reports so far, in order. -/
  notices : List Notice := []

namespace Progress

/-- The progress with some more reports. -/
def note (p : Progress) (notices : List Notice) : Progress :=
  { p with notices := p.notices ++ notices }

/-- The progress after steps of the accumulator. -/
def record (p : Progress) (steps : List Accumulator.Step) : Progress :=
  { p with
    accumulator := p.accumulator.run steps
    notices := p.notices ++ p.accumulator.notices steps }

/-- The progress after a query to a site. -/
def ask {α : Type} (p : Progress) (site : Site) (q : Query α) : Progress :=
  { p with
    requests := p.requests ++ [q.request]
    notices := p.notices ++ q.report site }

end Progress

/-- How a crawl reaches its pages and names. -/
structure Crawler where
  site : Site
  settings : Settings
  index : SubjectIndex

namespace Crawler

/-! ## Listing -/

/-- The catalog numbers of the pages that were read, in page order and without repeats, whatever the
order in which the pages came in. -/
def inPageOrder (pages : List (Int × List String)) : List String :=
  firsts id ((pages.mergeSort fun a b => a.1 ≤ b.1).flatMap Prod.snd)

/-- The report on a page that failed. -/
def pageNotice (t : Target) (page : Int) (failure : Failure) : Notice :=
  match failure.reason? with
  | some reason => .pageFailed page t.quarter t.subject reason
  | none => .pageBroken page t.quarter t.subject

/-- The pages of a target read one by one, with those that were read. -/
def readPages (crawler : Crawler) (t : Target) :
    List Int → Progress → Progress × List (Int × List String)
  | [], p => (p, [])
  | page :: pages, p =>
    let q := crawler.settings.catalogNumbersQuery t.quarter t.subject (toString page)
    let p := p.ask crawler.site q
    match q.result crawler.site with
    | .ok numbers =>
      let (p, rest) := readPages crawler t pages p
      (p, (page, numbers) :: rest)
    | .error failure => readPages crawler t pages (p.note [pageNotice t page failure])

/-- The numbers of `count` pages. -/
def pageNumbers (count : Int) : List Int :=
  (List.range count.toNat).map fun (n : Nat) => (n : Int) + 1

/-- The catalog numbers of a target, unless the number of its pages is not to be had. -/
def list (crawler : Crawler) (t : Target) (p : Progress) :
    Progress × Except Failure (List String) :=
  let q := crawler.settings.pageCountQuery t.quarter t.subject
  let p := p.ask crawler.site q
  match q.result crawler.site with
  | .error failure => (p, .error failure)
  | .ok count =>
    if count = 0 then (p.note [.noPages t.quarter t.subject], .ok [])
    else
      let (p, pages) := readPages crawler t (pageNumbers count) p
      (p, .ok (inPageOrder pages))

/-! ## Courses -/

/-- One course visited: it is recorded as soon as its summary is read, and its graph when its
requisites are. -/
def visit (crawler : Crawler) (t : Target) (catalog : String) (p : Progress) :
    Progress × Except Failure Unit :=
  let p := p.note (catalogNotices catalog)
  match crawler.settings.summaryQuery t.quarter t.subject catalog with
  | .error failure => (p, .error failure)
  | .ok summaryQuery =>
    let p := p.ask crawler.site summaryQuery
    match summaryQuery.result crawler.site with
    | .error failure => (p, .error failure)
    | .ok summary =>
      let course : Course := { subject := t.subject, catalog, name := some summary.name }
      let rowsQuery := crawler.settings.requisiteRowsQuery summary.tooltip
      let p := (p.record (Accumulator.bindSteps course)).ask crawler.site rowsQuery
      match rowsQuery.result crawler.site with
      | .error failure => (p, .error failure)
      | .ok rows =>
        match Graph.ofText course.nodeId (Row.encodeAll crawler.index rows) with
        | .error fault => (p, .error (.expression fault))
        | .ok graph => (p.record (Accumulator.mergeSteps graph), .ok ())

/-- The report on a course that failed. -/
def courseNotice (t : Target) (catalog : String) (failure : Failure) : Notice :=
  match failure.reason? with
  | some reason => .courseFailed t.subject catalog t.quarter reason
  | none => .courseBroken t.subject catalog t.quarter

/-- How many courses of a target were read, and how many failed. -/
structure Tally where
  read : Nat := 0
  failed : Nat := 0
  deriving DecidableEq, Repr

/-- The courses of a target visited one by one. -/
def visitAll (crawler : Crawler) (t : Target) : List String → Tally → Progress → Progress × Tally
  | [], tally, p => (p, tally)
  | catalog :: catalogs, tally, p =>
    match visit crawler t catalog p with
    | (p, .ok ()) => visitAll crawler t catalogs { tally with read := tally.read + 1 } p
    | (p, .error failure) =>
      visitAll crawler t catalogs { tally with failed := tally.failed + 1 }
        (p.note [courseNotice t catalog failure])

/-! ## Targets -/

/-- A target crawled, with the tally of its courses where they could be listed. -/
def crawlTarget (crawler : Crawler) (t : Target) (p : Progress) :
    Progress × Except Failure Tally :=
  match crawler.list t p with
  | (p, .error failure) => (p, .error failure)
  | (p, .ok catalogs) =>
    let (p, tally) := crawler.visitAll t catalogs {} p
    (p.note [.subjectDone t.quarter t.subject tally.read tally.failed], .ok tally)

/-- The report on a target whose courses could not be listed. -/
def targetNotice (t : Target) (failure : Failure) : Notice :=
  match failure.reason? with
  | some reason => .listingFailed t.quarter t.subject reason
  | none => .listingBroken t.quarter t.subject

/-- The progress after one more target. -/
def advance (crawler : Crawler) (p : Progress) (t : Target) : Progress :=
  match crawler.crawlTarget t p with
  | (p, .ok _) => p
  | (p, .error failure) => p.note [targetNotice t failure]

/-- The progress after all targets, in order. -/
def run (crawler : Crawler) (targets : List Target) (start : Progress) : Progress :=
  targets.foldl crawler.advance start

end Crawler

end Requisite
