import Mathlib.Algebra.Ring.Nat
import Mathlib.Data.String.Basic
import Requisite.Proofs.Store.Details
import Requisite.Proofs.Store.Growth

/-!
# The subject areas of a quarter

Which subject areas have classes in a quarter is said by two tables, and each is filled by saves of
its own: pairs of code and name to the subject areas, pairs of quarter and code to the links. These
saves may come in any order, links before the subject areas that they name too, and with repeats.
The listing of a quarter joins the tables. It has the codes that were brought to both, by code, and
each with the name that came with it first (`ListsOffered`).

One save makes the pairs that it brings arrive behind those that are stored (`Tables.Fills`). So
after a history of saves, whatever else was saved among them, the subject areas are the pairs that
were the first with their codes (`Session.History.subjects_eq`), and the links are all those that
were brought (`Session.History.mem_links_iff`).
-/

namespace Requisite

/-- The pairs of code and name that a save brings to the subject areas. -/
def Save.areaPairs : Save → List (Option String × Option String)
  | .subjects pairs => pairs
  | _ => []

/-- The pairs of quarter and code that a save brings to the links. -/
def Save.linkPairs : Save → List (Option String × Option String)
  | .links quarter codes => codes.map fun code => (quarter, code)
  | _ => []

/-- The pair of code and name that a subject area is saved by. -/
def SubjectArea.pair (area : SubjectArea) : Option String × Option String :=
  (some area.code, some area.name)

/-- The subject areas list what was offered in a quarter, of the pairs that were brought to the
subject areas and to the links. -/
structure ListsOffered (areaPairs linkPairs : List (Option String × Option String))
    (quarter : String) (areas : List SubjectArea) : Prop where
  /-- They come by code, no two of one code. -/
  sorted : areas.Pairwise fun a b => a.code < b.code
  /-- Their codes are those that were brought to the subject areas and linked to the quarter. -/
  codes : ∀ code, code ∈ areas.map SubjectArea.code ↔
    (∃ name, (some code, name) ∈ areaPairs) ∧ (some quarter, some code) ∈ linkPairs
  /-- The first pair that was brought with the code of one of them has its name. -/
  names : ∀ area ∈ areas, areaPairs.find? (fun pair => pair.1 = some area.code) = some area.pair

namespace Tables

/-! ## What one save brings -/

/-- Items that are inserted one by one arrive one by one, if the row of an item is all that the item
says. -/
theorem map_insertEach {ε α β κ κ' : Type} [DecidableEq κ] [DecidableEq κ'] {key : α → κ}
    {key? : β → Except ε κ} {row? : β → Except ε α} {toItem : α → β} {itemKey : β → κ'}
    (hkey : ∀ item k row, key? item = .ok k → (itemKey (toItem row) = itemKey item ↔ key row = k))
    (hrow : ∀ item row, row? item = .ok row → toItem row = item) {rows rows' : List α}
    {items : List β} {n : Nat} (h : insertEach key key? row? rows items = .ok (rows', n)) :
    rows'.map toItem = addAll itemKey (rows.map toItem) items := by
  induction items generalizing rows n with
  | nil =>
    cases h
    rfl
  | cons item items ih =>
    show _ = addAll itemKey (addNew itemKey (rows.map toItem) item) items
    obtain ⟨k, hk, ⟨hknown, hrest⟩ | ⟨hnew, row, m, hitem, hrest, -⟩⟩ := insertEach_cons_eq_ok.1 h
    · -- The item has the key of a stored row, so as an item it is known too.
      obtain ⟨row, hmem, hrowkey⟩ := List.mem_map.1 hknown
      have hknown' : itemKey item ∈ (rows.map toItem).map itemKey := by
        rw [← (hkey item k row hk).2 hrowkey]
        exact List.mem_map_of_mem (List.mem_map_of_mem hmem)
      rw [addNew_of_mem hknown']
      exact ih hrest
    · have hnew' : itemKey item ∉ (rows.map toItem).map itemKey := by
        rw [List.map_map]
        intro hmem
        obtain ⟨row', hmem, hrowkey⟩ := List.mem_map.1 hmem
        exact hnew (List.mem_map.2 ⟨row', hmem, (hkey item k row' hk).1 hrowkey⟩)
      rw [addNew_of_not_mem hnew', ← hrow item row hitem]
      rw [ih hrest, List.map_append, List.map_singleton]

variable {t t' : Tables} {n : Nat}

/-- Saved subject areas arrive as pairs of code and name. -/
theorem map_pair_saveSubjects {pairs : List (Option String × Option String)}
    (h : t.saveSubjects pairs = .ok (t', n)) :
    t'.subjects.map SubjectArea.pair = addAll Prod.fst (t.subjects.map SubjectArea.pair) pairs := by
  rw [saveSubjects_eq, map_eq_ok] at h
  obtain ⟨after, hafter, heq⟩ := h
  cases heq
  refine map_insertEach (fun pair code area hcode => ?_) (fun pair area harea => ?_) hafter
  · obtain ⟨_ | c, name⟩ := pair <;> cases hcode
    simp [SubjectArea.pair]
  · obtain ⟨_ | c, _ | name⟩ := pair <;> cases harea
    rfl

/-- The links are then those from before, and those of the quarter that were saved. -/
theorem mem_links_saveLinks {quarter : Option String} {codes : List (Option String)}
    (h : t.saveLinks quarter codes = .ok (t', n)) (q code : String) :
    ⟨q, code⟩ ∈ t'.links ↔
      ⟨q, code⟩ ∈ t.links ∨ (some q, some code) ∈ codes.map fun code => (quarter, code) := by
  rw [saveLinks_eq, map_eq_ok] at h
  obtain ⟨after, hafter, heq⟩ := h
  cases heq
  dsimp only
  rw [insertEach_eq_addAll id_of_linkRow? hafter, mem_addAll_id, List.mem_filterMap, List.mem_map]
  -- Only what names both a quarter and a subject area has a row.
  have hlink (c : Option String) :
      (linkRow? quarter c).toOption = some ⟨q, code⟩ ↔ (quarter, c) = (some q, some code) := by
    cases quarter <;> cases c <;>
      simp [linkRow?, required, Except.bind, Except.map, Except.toOption]
  simp only [mem_firsts_id, hlink]

/-- How the subject areas and the links are filled: the pairs of code and name arrive behind those
that are stored, the links of the other pairs are there, and all new rows are counted. -/
structure Fills (t : Tables) (areaPairs linkPairs : List (Option String × Option String))
    (newAreas newLinks : Nat) (t' : Tables) : Prop where
  subjects : t'.subjects.map SubjectArea.pair =
    addAll Prod.fst (t.subjects.map SubjectArea.pair) areaPairs
  links : ∀ q code, ⟨q, code⟩ ∈ t'.links ↔
    ⟨q, code⟩ ∈ t.links ∨ (some q, some code) ∈ linkPairs
  areaCount : t'.subjects.length = t.subjects.length + newAreas
  linkCount : t'.links.length = t.links.length + newLinks

/-- Tables that stay the same are filled with nothing. -/
theorem Fills.nothing (hsubjects : t'.subjects = t.subjects) (hlinks : t'.links = t.links) :
    t.Fills [] [] 0 0 t' where
  subjects := by
    rw [hsubjects]
    rfl
  links := by simp [hlinks]
  areaCount := by rw [hsubjects, Nat.add_zero]
  linkCount := by rw [hlinks, Nat.add_zero]

/-- Whatever is saved fills the tables with what it brings. -/
theorem fills_of_save {what : Save} {inserted : Inserted} (h : t.save what = .ok (t', inserted)) :
    t.Fills what.areaPairs what.linkPairs inserted.subjects inserted.links t' := by
  cases what with
  | nodes ns =>
    cases h
    exact .nothing rfl rfl
  | relations rs =>
    cases h
    exact .nothing rfl rfl
  | courses cs =>
    obtain ⟨⟨u, saved⟩, hsave, heq⟩ := map_eq_ok.1 h
    cases heq
    obtain ⟨-, rfl⟩ := exists_saveCourses_iff.1 ⟨saved, hsave⟩
    exact .nothing rfl rfl
  | graph ns cs rs =>
    obtain ⟨⟨u, saved⟩, hsave, heq⟩ := map_eq_ok.1 h
    cases heq
    obtain ⟨-, rfl⟩ := exists_saveGraph_iff.1 ⟨saved, hsave⟩
    exact .nothing rfl rfl
  | details ds =>
    obtain ⟨⟨u, saved⟩, hsave, heq⟩ := map_eq_ok.1 h
    cases heq
    obtain ⟨-, rfl⟩ := exists_saveDetails_iff.1 ⟨saved, hsave⟩
    exact .nothing rfl rfl
  | quarters pairs =>
    obtain ⟨after, hsave, heq⟩ := map_eq_ok.1 h
    cases heq
    rw [saveQuarters_eq] at hsave
    obtain ⟨after, -, rfl⟩ := map_eq_ok.1 hsave
    exact .nothing rfl rfl
  | subjects pairs =>
    obtain ⟨⟨u, count⟩, hsave, heq⟩ := map_eq_ok.1 h
    cases heq
    have hpairs := map_pair_saveSubjects hsave
    rw [saveSubjects_eq] at hsave
    obtain ⟨⟨rows, count⟩, hrows, heq⟩ := map_eq_ok.1 hsave
    cases heq
    obtain ⟨fresh, rfl, rfl⟩ := insertEach_eq_ok hrows
    exact { subjects := hpairs
            links := by simp [Save.linkPairs]
            areaCount := List.length_append
            linkCount := rfl }
  | links quarter codes =>
    obtain ⟨⟨u, count⟩, hsave, heq⟩ := map_eq_ok.1 h
    cases heq
    have hlinks := mem_links_saveLinks hsave
    rw [saveLinks_eq] at hsave
    obtain ⟨⟨rows, count⟩, hrows, heq⟩ := map_eq_ok.1 hsave
    cases heq
    obtain ⟨fresh, rfl, rfl⟩ := insertEach_eq_ok hrows
    exact { subjects := rfl
            links := hlinks
            areaCount := rfl
            linkCount := List.length_append }

/-! ## The listing -/

/-- Subject areas with codes of their own are listed by code, no two of one code. -/
theorem pairwise_lt_listSubjects (h : (t.subjects.map SubjectArea.code).Nodup) :
    t.listSubjects.Pairwise fun a b => a.code < b.code := by
  have hsorted : t.listSubjects.Pairwise fun a b => a.code ≤ b.code := by
    have htrans (a b c : SubjectArea) : decide (a.code ≤ b.code) → decide (b.code ≤ c.code) →
        decide (a.code ≤ c.code) := by
      simpa using le_trans
    have htotal (a b : SubjectArea) : (decide (a.code ≤ b.code) || decide (b.code ≤ a.code)) := by
      simpa using le_total a.code b.code
    exact (List.pairwise_mergeSort htrans htotal t.subjects).imp of_decide_eq_true
  have hcodes : (t.listSubjects.map SubjectArea.code).Nodup :=
    ((List.mergeSort_perm _ _).map _).nodup_iff.2 h
  exact (hsorted.and (List.pairwise_map.1 hcodes)).imp fun ⟨hle, hne⟩ => lt_of_le_of_ne hle hne

/-- The listing of a quarter has the stored subject areas that are linked to it. -/
theorem mem_listQuarterSubjects {quarter : String} {area : SubjectArea} :
    area ∈ t.listQuarterSubjects quarter ↔ area ∈ t.subjects ∧ ⟨quarter, area.code⟩ ∈ t.links := by
  rw [listQuarterSubjects, List.mem_filter, listSubjects, List.mem_mergeSort, List.contains_iff_mem]

/-- Tables that hold the first pairs of their codes and the links of all pairs list what was
offered. -/
theorem lists_offered {areaPairs linkPairs : List (Option String × Option String)}
    (hsubjects : t.subjects.map SubjectArea.pair = firsts Prod.fst areaPairs)
    (hlinks : ∀ q code, ⟨q, code⟩ ∈ t.links ↔ (some q, some code) ∈ linkPairs) (quarter : String) :
    ListsOffered areaPairs linkPairs quarter (t.listQuarterSubjects quarter) := by
  have hcodes : (t.subjects.map SubjectArea.code).map some =
      (firsts Prod.fst areaPairs).map Prod.fst := by
    rw [← hsubjects, List.map_map, List.map_map]
    rfl
  have hapart := nodup_map_firsts Prod.fst areaPairs
  constructor
  · rw [← hcodes] at hapart
    exact (pairwise_lt_listSubjects hapart.of_map).filter _
  · intro code
    have hstored : code ∈ t.subjects.map SubjectArea.code ↔
        ∃ name, (some code, name) ∈ areaPairs := by
      rw [← List.mem_map_of_injective (Option.some_injective _), hcodes, mem_map_firsts]
      simp
    rw [← hstored, ← hlinks]
    simp only [List.mem_map, mem_listQuarterSubjects]
    constructor
    · rintro ⟨area, ⟨harea, hlink⟩, rfl⟩
      exact ⟨⟨area, harea, rfl⟩, hlink⟩
    · rintro ⟨⟨area, harea, rfl⟩, hlink⟩
      exact ⟨area, ⟨harea, hlink⟩, rfl⟩
  · intro area harea
    have hmem : area.pair ∈ firsts Prod.fst areaPairs := by
      rw [← hsubjects]
      exact List.mem_map_of_mem (mem_listQuarterSubjects.1 harea).1
    rw [← find?_firsts]
    exact find?_of_mem hapart hmem

end Tables

/-! ## Histories of saves -/

namespace Session

/-- The session comes from the empty store by the saves, one after the other and none of them
refused. With each save stands what it counts as inserted. -/
inductive History : List (Save × Inserted) → Session → Prop where
  | start : History [] {}
  | next {saves : List (Save × Inserted)} {s s' : Session} {what : Save} {inserted : Inserted}
      (before : History saves s) (saved : s.saveCounted what = (s', .ok inserted)) :
      History (saves ++ [(what, inserted)]) s'

namespace History

variable {saves : List (Save × Inserted)} {s : Session}

/-- The subject areas are the first pairs of their codes. -/
theorem subjects_eq (h : History saves s) : s.working.subjects.map SubjectArea.pair =
    firsts Prod.fst (saves.flatMap fun save => save.1.areaPairs) := by
  induction h with
  | start => rfl
  | next before saved ih =>
    have hfills := Tables.fills_of_save (save_of_saveCounted saved)
    rw [hfills.subjects, ih, List.flatMap_append, firsts, firsts, addAll_append,
      List.flatMap_singleton]

/-- The links are all that were brought. -/
theorem mem_links_iff (h : History saves s) (q code : String) : ⟨q, code⟩ ∈ s.working.links ↔
    (some q, some code) ∈ saves.flatMap fun save => save.1.linkPairs := by
  induction h with
  | start => simp
  | next before saved ih =>
    have hfills := Tables.fills_of_save (save_of_saveCounted saved)
    rw [hfills.links, ih, List.flatMap_append, List.mem_append, List.flatMap_singleton]

/-- Of both tables, all rows were counted. -/
theorem sum_inserted (h : History saves s) :
    (saves.map fun save => save.2.subjects).sum = s.working.subjects.length ∧
      (saves.map fun save => save.2.links).sum = s.working.links.length := by
  induction h with
  | start => exact ⟨rfl, rfl⟩
  | next before saved ih =>
    have hfills := Tables.fills_of_save (save_of_saveCounted saved)
    rw [hfills.areaCount, hfills.linkCount, ← ih.1, ← ih.2]
    simp

/-- After any history of saves the listing of every quarter is what was offered in it, and the rows
of the subject areas and of the links are as many as were counted. -/
theorem listQuarterSubjects_offered (h : History saves s) :
    (∀ quarter, ListsOffered (saves.flatMap fun save => save.1.areaPairs)
      (saves.flatMap fun save => save.1.linkPairs) quarter
      (s.working.listQuarterSubjects quarter)) ∧
    (saves.map fun save => save.2.subjects).sum = s.working.subjects.length ∧
    (saves.map fun save => save.2.links).sum = s.working.links.length :=
  ⟨Tables.lists_offered h.subjects_eq h.mem_links_iff, h.sum_inserted⟩

/-- A history in which links come first, one of them for good without its subject area, and a
subject area comes twice, with two names. -/
def linksFirst : List (Save × Inserted) :=
  [(.links (some "W") [some "M", some "X", some "M"], { links := 2 }),
    (.subjects [(some "M", some "Math"), (some "A", some "Art"), (some "M", some "Logic")],
      { subjects := 2 }),
    (.links (some "W") [some "A", some "M"], { links := 1 })]

/-- Two subject areas are listed, by code, and the one that came twice has its first name. -/
theorem listQuarterSubjects_offered_linksFirst : ∃ s, History linksFirst s ∧
    s.working.listQuarterSubjects "W" = [⟨"A", "Art"⟩, ⟨"M", "Math"⟩] ∧
    ListsOffered (linksFirst.flatMap fun save => save.1.areaPairs)
      (linksFirst.flatMap fun save => save.1.linkPairs) "W" [⟨"A", "Art"⟩, ⟨"M", "Math"⟩] ∧
    2 = s.working.subjects.length ∧ 3 = s.working.links.length := by
  let t : Tables :=
    { subjects := [⟨"M", "Math"⟩, ⟨"A", "Art"⟩], links := [⟨"W", "M"⟩, ⟨"W", "X"⟩, ⟨"W", "A"⟩] }
  have hhistory : History linksFirst { committed := t, working := t } :=
    .next (.next (.next .start rfl) rfl) rfl
  have hlisting : t.listQuarterSubjects "W" = [⟨"A", "Art"⟩, ⟨"M", "Math"⟩] := by
    simp [t, Tables.listQuarterSubjects, Tables.listSubjects, List.mergeSort]
  obtain ⟨hlists, hcounts⟩ := listQuarterSubjects_offered hhistory
  have hquarter := hlists "W"
  rw [hlisting] at hquarter
  exact ⟨_, hhistory, hlisting, hquarter, hcounts⟩

end History

end Session

end Requisite
