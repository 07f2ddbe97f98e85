import Requisite.Proofs.Crawl.Contributions

/-!
# Pages that come in in any order

The pages of a target may be fetched by several workers, so that they come in in any order. Each is
looked at as it comes in: its catalog numbers are kept under its number, or its failure is reported
(`Arrived.add`). In whichever order they come, the same pages are kept in the end, each once
(`Arrived.foldl_add`), and since they are sorted before they are read, the listing is the same: the
lists of the pages that did not fail in page order, each catalog number at its first place only
(`listArriving_any_order`). A crawl that fetches the pages one by one is the case in which they come
in in page order.
-/

namespace Requisite

open Schedule

namespace Crawler

/-- What has come in of the pages of a target. -/
structure Arrived where
  /-- The pages that are kept, each with the catalog numbers on it. -/
  read : List (Int × List String) := []
  /-- The reports on those that failed. -/
  notices : List Notice := []

section

variable (t : Target) (outcome : Int → Except Failure (List String))

/-- One more page comes in. -/
def Arrived.add (arrived : Arrived) (page : Int) : Arrived :=
  match outcome page with
  | .ok numbers => { arrived with read := arrived.read ++ [(page, numbers)] }
  | .error failure => { arrived with notices := arrived.notices ++ [pageNotice t page failure] }

/-- The listing of a target with a number of pages, which come in in some order. -/
def listArriving (count : Int) (order : List Int) : List Notice × List String :=
  if count = 0 then ([.noPages t.quarter t.subject], [])
  else
    let arrived := order.foldl (Arrived.add t outcome) {}
    (arrived.notices, inPageOrder arrived.read)

/-- What a crawl finds on a page of a target. -/
def pageResult (crawler : Crawler) (t : Target) (page : Int) : Except Failure (List String) :=
  (crawler.pageQuery t page).result crawler.site

/-- The reports on the pages that fail. -/
def failures (order : List Int) : List Notice :=
  order.filterMap fun page =>
    match outcome page with
    | .ok _ => none
    | .error failure => some (pageNotice t page failure)

/-- A page that comes in is kept or reported, and nothing else changes. -/
theorem Arrived.add_eq (arrived : Arrived) (page : Int) :
    Arrived.add t outcome arrived page =
      { read := arrived.read ++ kept outcome [page]
        notices := arrived.notices ++ failures t outcome [page] } := by
  rw [add, kept, failures]
  cases h : outcome page with
  | ok numbers => simp [h, Except.toOption]
  | error failure => simp [h, Except.toOption]

/-- After pages have come in, those that did not fail are kept and the others reported, in the order
in which they came. -/
theorem Arrived.foldl_add (arrived : Arrived) (order : List Int) :
    order.foldl (Arrived.add t outcome) arrived =
      { read := arrived.read ++ kept outcome order
        notices := arrived.notices ++ failures t outcome order } := by
  induction order generalizing arrived with
  | nil => simp [kept, failures]
  | cons page order ih =>
    rw [List.foldl_cons, ih, Arrived.add_eq]
    simp only [kept, failures, List.append_assoc, ← List.filterMap_append, List.singleton_append]

end

/-- In whichever order the pages of a target come in, and whichever of them fail, the listing is the
same: the lists of the pages that did not fail, in page order, and of each catalog number only the
first. The failures are reported, each once. And a crawl that fetches the pages one by one lists the
same. -/
theorem listArriving_any_order (t : Target) (count : Int)
    (outcome : Int → Except Failure (List String)) {order : List Int}
    (h : order.Perm (pageNumbers count)) :
    (listArriving t outcome count order).2 =
        ((pageNumbers count).flatMap fun page => (outcome page).toOption.getD []).eraseDups ∧
      (count ≠ 0 → (listArriving t outcome count order).1.Perm
        (failures t outcome (pageNumbers count))) ∧
      ∀ (crawler : Crawler) (p : Progress),
        (crawler.countQuery t).result crawler.site = .ok count →
        (∀ page, crawler.pageResult t page = outcome page) →
        (crawler.list t p).2 = .ok (listArriving t outcome count order).2 := by
  have hlist : (listArriving t outcome count order).2 =
      firsts id ((pageNumbers count).flatMap fun page => (outcome page).toOption.getD []) := by
    rw [listArriving]
    by_cases hzero : count = 0
    · rw [if_pos hzero, hzero]
      rfl
    · rw [if_neg hzero, Arrived.foldl_add]
      exact inPageOrder_kept outcome (pairwise_pageNumbers count) h
  refine ⟨?_, fun hne => ?_, fun crawler p hcount houtcome => ?_⟩
  · rw [hlist, firsts_eq_eraseDups]
  · rw [listArriving, if_neg hne, Arrived.foldl_add]
    exact h.filterMap _
  · rw [snd_list, hcount, hlist, listed, pages, hcount]
    have hpages : crawler.onPage t = fun page => (outcome page).toOption.getD [] := by
      funext page
      rw [onPage, ← pageResult, houtcome]
    rw [hpages]
    rfl

/-- The second page comes in first, and then the first one, which is broken. -/
theorem listArriving_any_order_brokenPage :
    [2, 1].Perm (pageNumbers 2) ∧
      (listArriving smallTarget ((smallCrawler (.error .broken)).pageResult smallTarget) 2
        [2, 1]).2 = ["1", "2"] ∧
      ((smallCrawler (.error .broken)).list smallTarget {}).2 = .ok ["1", "2"] := by
  have horder : [2, 1].Perm (pageNumbers 2) := .swap _ _ _
  have hcount : ((smallCrawler (.error .broken)).countQuery smallTarget).result
      (smallCrawler (.error .broken)).site = .ok 2 := by
    decide +kernel
  obtain ⟨hlist, -, hcrawl⟩ := listArriving_any_order smallTarget 2
    ((smallCrawler (.error .broken)).pageResult smallTarget) horder
  have hnumbers : (listArriving smallTarget ((smallCrawler (.error .broken)).pageResult smallTarget)
      2 [2, 1]).2 = ["1", "2"] := by
    rw [hlist]
    decide +kernel
  refine ⟨horder, hnumbers, ?_⟩
  rw [hcrawl (smallCrawler (.error .broken)) {} hcount fun _ => rfl, hnumbers]

end Crawler

end Requisite
