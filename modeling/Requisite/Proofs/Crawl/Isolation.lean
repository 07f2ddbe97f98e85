import Requisite.Proofs.Accumulation
import Requisite.Proofs.Crawl.Contributions

/-!
# Failures of a crawl stay where they are

What is found of a course depends only on the answers to the requests of the visit to it
(`Crawler.found_congr`), the numbers on a page only on the answer to the request for that page, and
the listing of a target only on the answers to its own requests (`Crawler.listed_congr`). So
whatever else fails at a site, they are the same. And a graph is recorded as a whole or not at all
(`Crawler.whole_foldl_onto`), so no failure leaves a part of one behind.
-/

namespace Requisite

open Schedule

namespace Crawler

open Accumulator (Step)

variable (crawler : Crawler) (t : Target)

/-! ## What a contribution depends on -/

section

variable {crawler t} {other : Site}

/-- What a site says to a query depends on the answer to its request. -/
theorem result_congr {α : Type} {q : Query α} (h : other q.request = crawler.site q.request) :
    q.result other = q.result crawler.site := by
  rw [Query.result, Query.answer, h]
  rfl

/-- The numbers on a page depend on the answer to the request for it. -/
theorem onPage_congr {page : Int}
    (h : other (crawler.pageQuery t page).request =
      crawler.site (crawler.pageQuery t page).request) :
    onPage { crawler with site := other } t page = crawler.onPage t page := by
  rw [onPage, onPage, ← result_congr h]
  rfl

/-- What a target lists depends on the answers to the requests that listing it makes. -/
theorem listed_congr (h : ∀ r ∈ (crawler.list t {}).1.requests, other r = crawler.site r) :
    listed { crawler with site := other } t = crawler.listed t := by
  rw [requests_list, List.nil_append, List.forall_mem_cons, List.forall_mem_map] at h
  have hpages : pages { crawler with site := other } t = crawler.pages t := by
    rw [pages, pages, ← result_congr h.1]
    rfl
  rw [listed, listed, hpages]
  exact congrArg (firsts id) (List.flatMap_congr fun page hpage => onPage_congr (h.2 page hpage))

/-- What is found of a course depends on the answers to the requests that a visit to it makes. -/
theorem found_congr {catalog : String}
    (h : ∀ r ∈ (crawler.visit t catalog {}).1.requests, other r = crawler.site r) :
    found { crawler with site := other } t catalog = crawler.found t catalog := by
  rw [requests_visit, List.nil_append, asked] at h
  rw [found, found, summary, summary]
  -- The first answer says which request is the second, so that one is known only once it is read.
  cases hquery : crawler.settings.summaryQuery t.quarter t.subject catalog with
  | error failure => rfl
  | ok q =>
    rw [hquery, List.forall_mem_cons] at h
    have hsummary : q.result other = q.result crawler.site := result_congr h.1
    dsimp only [Except.bind]
    rw [hsummary]
    cases hresult : q.result crawler.site with
    | error failure => rfl
    | ok summary =>
      have hrows := h.2
      rw [hresult, List.forall_mem_singleton] at hrows
      dsimp only [graphOf]
      rw [result_congr hrows]

/-- What a target contributes depends on the answers to the requests that a crawl of it makes. -/
theorem contribution_congr
    (h : ∀ r ∈ (crawler.crawlTarget t {}).1.requests, other r = crawler.site r) :
    contribution { crawler with site := other } t = crawler.contribution t := by
  rw [requests_crawlTarget, List.forall_mem_append] at h
  rw [contribution, contribution, listed_congr h.1]
  refine List.map_congr_left fun catalog hcatalog => found_congr fun r hr => ?_
  rw [requests_visit, List.nil_append] at hr
  exact h.2 r (List.mem_flatMap.2 ⟨catalog, hcatalog, hr⟩)

end

/-! ## Whole graphs -/

/-- The steps that record what is found. -/
def Found.steps : Found → List Step
  | .nothing => []
  | .course c => Accumulator.bindSteps c
  | .graph c g => Accumulator.bindSteps c ++ Accumulator.mergeSteps g

/-- The course that is found, if one is. -/
def Found.course? : Found → Option Course
  | .nothing => none
  | .course c => some c
  | .graph c _ => some c

/-- What is recorded belongs to a course or to a graph that is found. -/
theorem mem_flatMap_steps {α : Type} {brought : Step → List α} {fs : List Found} {x : α} :
    x ∈ (fs.flatMap Found.steps).flatMap brought ↔
      ∃ f ∈ fs, (∃ c, f.course? = some c ∧ x ∈ (Accumulator.bindSteps c).flatMap brought) ∨
        ∃ g, f.graph? = some g ∧ x ∈ (Accumulator.mergeSteps g).flatMap brought := by
  rw [List.flatMap_assoc, List.mem_flatMap]
  refine exists_congr fun f => and_congr_right fun _ => ?_
  cases f with
  | nothing => simp [Found.steps, Found.course?, Found.graph?]
  | course c => simp [Found.steps, Found.course?, Found.graph?]
  | graph c g => simp [Found.steps, Found.course?, Found.graph?]

/-- What is found is recorded step by step. -/
theorem foldl_onto_eq_run (acc : Accumulator) (fs : List Found) :
    fs.foldl Found.onto acc = acc.run (fs.flatMap Found.steps) := by
  induction fs generalizing acc with
  | nil => rfl
  | cons f fs ih =>
    rw [List.foldl_cons, List.flatMap_cons, Accumulator.run_append, ih]
    congr 1
    cases f with
    | nothing => rfl
    | course c => rfl
    | graph c g => exact (Accumulator.run_append _ _ _).symm

/-- The graph is in the accumulator as a whole: its nodes by their ids, its courses by their keys,
and its relations. -/
structure Includes (acc : Accumulator) (g : Graph) : Prop where
  nodes : ∀ n ∈ g.nodes, n.id ∈ acc.nodes.map Node.id
  courses : ∀ c ∈ g.courses, c.key ∈ acc.courses.map Course.key
  relations : ∀ r ∈ g.relations, r ∈ acc.relations

/-- What is in the accumulator was there at the start, or is some course that is found, or belongs
to a graph that is found, and each of these graphs is there as a whole. -/
structure Whole (start acc : Accumulator) (fs : List Found) : Prop where
  includes : ∀ f ∈ fs, ∀ g, f.graph? = some g → Includes acc g
  nodes : ∀ n ∈ acc.nodes, n ∈ start.nodes ∨
    ∃ f ∈ fs, (∃ c, f.course? = some c ∧ n = ⟨c.nodeId, .value⟩) ∨
      ∃ g, f.graph? = some g ∧ n ∈ g.nodes
  courses : ∀ key ∈ acc.courses.map Course.key, key ∈ start.courses.map Course.key ∨
    ∃ f ∈ fs, (∃ c, f.course? = some c ∧ key = c.key) ∨
      ∃ g, f.graph? = some g ∧ key ∈ g.courses.map Course.key
  relations : ∀ r ∈ acc.relations, r ∈ start.relations ∨
    ∃ f ∈ fs, ∃ g, f.graph? = some g ∧ r ∈ g.relations

/-- A graph that is found is recorded as a whole. -/
theorem includes_foldl_onto (start : Accumulator) {fs : List Found} {f : Found} {g : Graph}
    (hf : f ∈ fs) (hg : f.graph? = some g) : Includes (fs.foldl Found.onto start) g := by
  -- The steps of the graph bring all of it.
  have hall {α : Type} {brought : Step → List α} {x : α}
      (hx : x ∈ (Accumulator.mergeSteps g).flatMap brought) :
      x ∈ (fs.flatMap Found.steps).flatMap brought :=
    mem_flatMap_steps.2 ⟨f, hf, .inr ⟨g, hg, hx⟩⟩
  rw [foldl_onto_eq_run]
  constructor
  case nodes =>
    intro n hn
    rw [← Accumulator.flatMap_nodesOf_mergeSteps g] at hn
    rw [Accumulator.nodes_run, mem_map_addAll]
    exact .inr (List.mem_map_of_mem (hall hn))
  case courses =>
    intro c hc
    rw [← Accumulator.flatMap_coursesOf_mergeSteps g] at hc
    -- The record of a course may be an earlier one of the same key.
    rw [Accumulator.map_key_run, mem_addAll_id]
    exact .inr (List.mem_map_of_mem (hall hc))
  case relations =>
    intro r hr
    rw [← Accumulator.flatMap_relationsOf_mergeSteps g] at hr
    rw [Accumulator.relations_run, mem_addAll_id]
    exact .inr (hall hr)

/-- Only what is found is recorded, and graphs are recorded as a whole. -/
theorem whole_foldl_onto (start : Accumulator) (fs : List Found) :
    Whole start (fs.foldl Found.onto start) fs := by
  constructor
  case includes => exact fun f hf g hg => includes_foldl_onto start hf hg
  case nodes =>
    intro n hn
    rw [foldl_onto_eq_run, Accumulator.nodes_run] at hn
    refine (mem_of_mem_addAll hn).imp_right fun hn => ?_
    obtain ⟨f, hf, ⟨c, hc, hn⟩ | ⟨g, hg, hn⟩⟩ := mem_flatMap_steps.1 hn
    · rw [Accumulator.flatMap_nodesOf_bindSteps, List.mem_singleton] at hn
      exact ⟨f, hf, .inl ⟨c, hc, hn⟩⟩
    · rw [Accumulator.flatMap_nodesOf_mergeSteps] at hn
      exact ⟨f, hf, .inr ⟨g, hg, hn⟩⟩
  case courses =>
    intro key hkey
    rw [foldl_onto_eq_run, Accumulator.map_key_run, mem_addAll_id] at hkey
    refine hkey.imp_right fun hkey => ?_
    obtain ⟨d, hd, rfl⟩ := List.mem_map.1 hkey
    obtain ⟨f, hf, ⟨c, hc, hd⟩ | ⟨g, hg, hd⟩⟩ := mem_flatMap_steps.1 hd
    · rw [Accumulator.flatMap_coursesOf_bindSteps, List.mem_singleton] at hd
      exact ⟨f, hf, .inl ⟨c, hc, congrArg Course.key hd⟩⟩
    · rw [Accumulator.flatMap_coursesOf_mergeSteps] at hd
      exact ⟨f, hf, .inr ⟨g, hg, List.mem_map_of_mem hd⟩⟩
  case relations =>
    intro r hr
    rw [foldl_onto_eq_run, Accumulator.relations_run, mem_addAll_id] at hr
    refine hr.imp_right fun hr => ?_
    obtain ⟨f, hf, ⟨c, hc, hr⟩ | ⟨g, hg, hr⟩⟩ := mem_flatMap_steps.1 hr
    · exact absurd hr List.not_mem_nil
    · rw [Accumulator.flatMap_relationsOf_mergeSteps] at hr
      exact ⟨f, hf, g, hg, hr⟩

/-- A crawl always ends, with what its targets contribute recorded in order over the start, and
every graph among it as a whole. What is on a page, what a target lists, what is found of a course
and what a target contributes stay as they are, however the site answers the requests that are not
theirs. -/
theorem run_isolates (targets : List Target) (start : Progress) :
    (crawler.run targets start).accumulator =
        (targets.flatMap crawler.contribution).foldl Found.onto start.accumulator ∧
      Whole start.accumulator (crawler.run targets start).accumulator
        (targets.flatMap crawler.contribution) ∧
      ∀ other : Site,
        (∀ t page,
          other (crawler.pageQuery t page).request =
            crawler.site (crawler.pageQuery t page).request →
          onPage { crawler with site := other } t page = crawler.onPage t page) ∧
        (∀ t, (∀ r ∈ (crawler.list t {}).1.requests, other r = crawler.site r) →
          listed { crawler with site := other } t = crawler.listed t) ∧
        (∀ t catalog, (∀ r ∈ (crawler.visit t catalog {}).1.requests, other r = crawler.site r) →
          found { crawler with site := other } t catalog = crawler.found t catalog) ∧
        ∀ t, (∀ r ∈ (crawler.crawlTarget t {}).1.requests, other r = crawler.site r) →
          contribution { crawler with site := other } t = crawler.contribution t := by
  have hrun := crawler.accumulator_run targets start
  refine ⟨hrun, hrun ▸ whole_foldl_onto _ _, fun other => ⟨?_, ?_, ?_, ?_⟩⟩
  · exact fun t page h => onPage_congr h
  · exact fun t h => listed_congr h
  · exact fun t catalog h => found_congr h
  · exact fun t h => contribution_congr h

/-- The first page breaks, and one of the two courses on the second has no summary. The other course
and its graph are recorded, and nothing of them would change if there were a first page. -/
theorem run_isolates_brokenPage :
    ((smallCrawler (.error .broken)).run [smallTarget] {}).accumulator =
        (({} : Accumulator).bindCourse smallCourse).merge smallGraph ∧
      (smallCrawler (.error .broken)).onPage smallTarget 1 = [] ∧
      (smallCrawler (.error .broken)).found smallTarget "2" = .nothing ∧
      ∀ firstPage,
        (smallCrawler firstPage).onPage smallTarget 2 =
          (smallCrawler (.error .broken)).onPage smallTarget 2 ∧
        (smallCrawler firstPage).found smallTarget "1" = .graph smallCourse smallGraph := by
  have hurls : ∀ r ∈ (smallCrawler (.error .broken)).asked smallTarget "1", r.url ≠ "titles" := by
    decide +kernel
  obtain ⟨hfold, -, hother⟩ := (smallCrawler (.error .broken)).run_isolates [smallTarget] {}
  refine ⟨?_, rfl, nothing_smallCrawler, fun firstPage => ?_⟩
  · rw [hfold, List.flatMap_singleton, contribution_smallCrawler]
    rfl
  · obtain ⟨hpage, -, hcourse, -⟩ := hother (smallSite firstPage)
    refine ⟨hpage smallTarget 2 rfl, ?_⟩
    rw [← found_smallCrawler]
    refine hcourse smallTarget "1" fun r hr => ?_
    rw [requests_visit, List.nil_append] at hr
    have hurl := hurls r hr
    simp only [smallCrawler, smallSite, hurl, if_false]

end Crawler

end Requisite
