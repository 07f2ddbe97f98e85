import Requisite.Proofs.Crawl.Contributions

/-!
# What a crawl asks for, and how it counts

A crawl asks, target by target, for the number of pages, for each page, and then for each course
that the pages list, however often they list it, once (`Crawler.targetRequests`). What it asks for
one course depends on no other (`Crawler.Asks`): for its summary, unless its catalog number
cannot be written in a query, and for its requisites exactly if there is a summary. The tally of a
target counts the same courses (`Crawler.tally`), those as read whose graph is merged into the
accumulator, and the others as failed. So whatever fails, requests and tally speak of the same list
(`Crawler.run_asks_each_course_once`).
-/

namespace Requisite

open Schedule

namespace Crawler

/-- The catalog numbers that the pages of a target list, each at its first place. -/
def distinct (crawler : Crawler) (t : Target) : List String :=
  ((crawler.pages t).flatMap (crawler.onPage t)).eraseDups

/-- The requests of a crawl for one target: for the number of its pages, for each page, and then for
each of its courses. -/
def targetRequests (crawler : Crawler) (t : Target) : List Request :=
  (crawler.countQuery t).request ::
    ((crawler.pages t).map (fun page => (crawler.pageQuery t page).request) ++
      (crawler.distinct t).flatMap (crawler.asked t))

/-- What may be asked for a course: nothing if its catalog number cannot be written in a query, its
summary otherwise, and right after it its requisites exactly if there is a summary. -/
inductive Asks (crawler : Crawler) (t : Target) (catalog : String) : List Request → Prop where
  | unwritten (hnumber : formatCatalogNumber? catalog = none) : Asks crawler t catalog []
  | summary {q : Query Summary} {failure : Failure}
      (hquery : crawler.settings.summaryQuery t.quarter t.subject catalog = .ok q)
      (herror : q.result crawler.site = .error failure) : Asks crawler t catalog [q.request]
  | requisites {q : Query Summary} {summary : Summary}
      (hquery : crawler.settings.summaryQuery t.quarter t.subject catalog = .ok q)
      (hok : q.result crawler.site = .ok summary) :
      Asks crawler t catalog
        [q.request, (crawler.settings.requisiteRowsQuery summary.tooltip).request]

/-- Whether there is a graph of a course to merge. -/
def hasGraph (crawler : Crawler) (t : Target) (catalog : String) : Bool :=
  (crawler.found t catalog).graph?.isSome

/-- The tally of some courses of a target. -/
def tallyOf (crawler : Crawler) (t : Target) (catalogs : List String) : Tally where
  read := catalogs.countP (crawler.hasGraph t)
  failed := catalogs.countP fun catalog => !crawler.hasGraph t catalog

variable (crawler : Crawler) (t : Target)

/-- What a target lists are its distinct catalog numbers. -/
theorem listed_eq_distinct : crawler.listed t = crawler.distinct t :=
  firsts_eq_eraseDups _

/-! ## Requests -/

/-- These are the requests for a course. -/
theorem asks_asked (catalog : String) : crawler.Asks t catalog (crawler.asked t catalog) := by
  rw [asked]
  split
  next failure hquery =>
    refine .unwritten ?_
    rw [Settings.summaryQuery] at hquery
    split at hquery
    next hnumber => exact hnumber
    next => cases hquery
  next q hquery =>
    split
    next failure herror => exact .summary hquery herror
    next summary hok => exact .requisites hquery hok

/-- One more target adds its requests. -/
theorem requests_advance (p : Progress) :
    (crawler.advance p t).requests = p.requests ++ crawler.targetRequests t := by
  obtain ⟨notices, hadvance⟩ := crawler.advance_eq t p
  rw [hadvance, Progress.note]
  dsimp only
  rw [requests_crawlTarget, requests_list, listed_eq_distinct, targetRequests, List.append_assoc,
    List.cons_append]

/-- A crawl makes the requests of its targets, one target after the other. -/
theorem requests_run (targets : List Target) (start : Progress) :
    (crawler.run targets start).requests =
      start.requests ++ targets.flatMap crawler.targetRequests := by
  rw [run]
  induction targets generalizing start with
  | nil => exact (List.append_nil _).symm
  | cons t targets ih =>
    rw [List.foldl_cons, ih, requests_advance, List.flatMap_cons, List.append_assoc]

/-- The first page is broken, and the second lists two courses, of which the first has a summary. -/
example : ((smallCrawler (.error .broken)).targetRequests smallTarget).map Request.url =
    ["pages", "titles", "titles", "summary", "b1", "summary"] := by
  decide +kernel

/-! ## Tallies -/

/-- Each visit is counted once, by its success. -/
theorem snd_visitAll (catalogs : List String) (tally : Tally) (p : Progress) :
    (crawler.visitAll t catalogs tally p).2 =
      { read := tally.read + (crawler.tallyOf t catalogs).read
        failed := tally.failed + (crawler.tallyOf t catalogs).failed } := by
  induction catalogs generalizing tally p with
  | nil => rfl
  | cons catalog catalogs ih =>
    rw [visitAll, tallyOf, List.countP_cons, List.countP_cons, hasGraph, ← isOk_visit _ _ _ p]
    rcases crawler.visit t catalog p with ⟨after, failure | _⟩
    · dsimp only
      rw [ih, tallyOf]
      simp [Except.isOk, Except.toBool, Nat.add_assoc, Nat.add_comm 1]
    · dsimp only
      rw [ih, tallyOf]
      simp [Except.isOk, Except.toBool, Nat.add_assoc, Nat.add_comm 1]

/-- Each course is counted once. -/
theorem read_add_failed_tallyOf (catalogs : List String) :
    (crawler.tallyOf t catalogs).read + (crawler.tallyOf t catalogs).failed = catalogs.length := by
  rw [tallyOf, List.length_eq_countP_add_countP (crawler.hasGraph t)]
  simp

/-- A crawl of a target tallies its courses, if the number of its pages is to be had. -/
theorem snd_crawlTarget (p : Progress) :
    (crawler.crawlTarget t p).2 = ((crawler.countQuery t).result crawler.site).map fun _ =>
      crawler.tallyOf t (crawler.distinct t) := by
  have hlist := crawler.snd_list t p
  rw [crawlTarget, ← listed_eq_distinct]
  rcases hp : crawler.list t p with ⟨after, outcome⟩
  rw [hp] at hlist
  change outcome = _ at hlist
  cases hcount : (crawler.countQuery t).result crawler.site with
  | error failure =>
    obtain rfl : outcome = .error failure := by rw [hlist, hcount]; rfl
    rfl
  | ok count =>
    obtain rfl : outcome = .ok (crawler.listed t) := by rw [hlist, hcount]; rfl
    have htally := crawler.snd_visitAll t (crawler.listed t) {} after
    rw [Nat.zero_add, Nat.zero_add] at htally
    exact congrArg Except.ok htally

/-- Whatever the site answers, a crawl asks, target by target, for the number of pages, for each
page in order, and then for each of the distinct courses on them, in the order of the listing: for
its summary, unless its number cannot be written in a query, and right after it for its requisites,
if there is a summary. The tally of a target that can be listed counts the same courses, each once,
and as read exactly those whose graph is merged. -/
theorem run_asks_each_course_once (targets : List Target) (start : Progress) :
    (crawler.run targets start).requests =
        start.requests ++ targets.flatMap crawler.targetRequests ∧
      (∀ t catalog, crawler.Asks t catalog (crawler.asked t catalog)) ∧
      ∀ t p,
        (crawler.crawlTarget t p).1.accumulator =
            ((crawler.distinct t).map (crawler.found t)).foldl Found.onto p.accumulator ∧
          (crawler.crawlTarget t p).2 = ((crawler.countQuery t).result crawler.site).map (fun _ =>
            crawler.tallyOf t (crawler.distinct t)) ∧
          (crawler.tallyOf t (crawler.distinct t)).read +
            (crawler.tallyOf t (crawler.distinct t)).failed = (crawler.distinct t).length := by
  refine ⟨crawler.requests_run targets start, crawler.asks_asked, fun t p => ⟨?_, ?_, ?_⟩⟩
  · rw [accumulator_crawlTarget, contribution, listed_eq_distinct]
  · exact crawler.snd_crawlTarget t p
  · exact crawler.read_add_failed_tallyOf t _

end Crawler

end Requisite
