import Requisite.Proofs.Store.Again
import Requisite.Proofs.Store.Histories

/-!
# What is stored stays

Whatever is saved, the tables grow (`Tables.Grows`): nodes, relations, quarters, subject areas and
links are as they were, with new ones behind them, and every stored course is still in its place,
with its key and its node. A detail that was given is never lost, and only details that are saved
replace a name, or touch the other three (`CourseRow.Grows`).

Growing is said of one step and may be repeated (`Tables.Grows.trans`), so each of the savers is
covered by what it does to one row: naming a course, detailing it, and putting a new row at the end
of a table. A session whose save succeeds works on tables that have grown
(`Session.grows_of_save`), and what was committed only grows, however much is saved and whatever of
it is refused (`Session.committed_grows_saveAll`).
-/

namespace Requisite

open Schedule

/-! ## Saves as steps of the tables -/

/-- How many rows of each table a save counts as inserted. -/
structure Inserted where
  nodes : Nat := 0
  courses : Nat := 0
  relations : Nat := 0
  quarters : Nat := 0
  subjects : Nat := 0
  links : Nat := 0
  deriving DecidableEq, Repr

/-- The three counts of a saved graph. -/
def GraphSaved.rows (saved : GraphSaved) : Inserted where
  nodes := saved.nodes.inserted
  courses := saved.courses.inserted
  relations := saved.relations.inserted

/-- What is saved are details of courses. -/
def Save.savesDetails : Save → Bool
  | .details _ => true
  | _ => false

/-- What is saved is committed at once. -/
def Save.commits : Save → Bool
  | .nodes _ | .courses _ | .relations _ => false
  | _ => true

/-- The tables after something is saved, and the rows that are counted as inserted. -/
def Tables.save (t : Tables) : Save → Except ConstraintFault (Tables × Inserted)
  | .nodes ns => .ok ((t.saveNodes ns).1, { nodes := (t.saveNodes ns).2.inserted })
  | .courses cs => (t.saveCourses cs).map fun after =>
      (after.1, { courses := after.2.inserted })
  | .relations rs => .ok ((t.saveRelations rs).1, { relations := (t.saveRelations rs).2.inserted })
  | .graph ns cs rs => (t.saveGraph ns cs rs).map fun after => (after.1, after.2.rows)
  | .quarters pairs => (t.saveQuarters pairs).map fun after => (after.1, { quarters := after.2 })
  | .subjects pairs => (t.saveSubjects pairs).map fun after => (after.1, { subjects := after.2 })
  | .links quarter codes =>
    (t.saveLinks quarter codes).map fun after => (after.1, { links := after.2 })
  | .details ds => (t.saveDetails ds).map fun after => (after.1, { courses := after.2.inserted })

namespace Session

variable {α β : Type}

/-- The end of a save, with a report made of what it counts. -/
def report (f : α → β) (after : Session × Except ConstraintFault α) :
    Session × Except ConstraintFault β :=
  (after.1, after.2.map f)

/-- The session after something is saved, or after that is refused and taken back, with the rows
that are counted as inserted. -/
def saveCounted (s : Session) : Save → Session × Except ConstraintFault Inserted
  | .nodes ns => report (fun saved => { nodes := saved.inserted }) (s.saveNodes ns)
  | .courses cs => report (fun saved => { courses := saved.inserted }) (s.saveCourses cs)
  | .relations rs => report (fun saved => { relations := saved.inserted }) (s.saveRelations rs)
  | .graph ns cs rs => report GraphSaved.rows (s.saveGraph ns cs rs)
  | .quarters pairs => report (fun n => { quarters := n }) (s.saveQuarters pairs)
  | .subjects pairs => report (fun n => { subjects := n }) (s.saveSubjects pairs)
  | .links quarter codes => report (fun n => { links := n }) (s.saveLinks quarter codes)
  | .details ds => report (fun saved => { courses := saved.inserted }) (s.saveDetails ds)

/-- Without the counts it is the session after the save. -/
theorem uncounted_saveCounted (s : Session) (what : Save) :
    uncounted (s.saveCounted what) = s.save what := by
  have hreport {α : Type} (f : α → Inserted) (after : Session × Except ConstraintFault α) :
      uncounted (report f after) = uncounted after := by
    obtain ⟨s', fault | a⟩ := after <;> rfl
  cases what <;> exact hreport _ _

/-- A report on what is written is a report on the step. -/
theorem report_write (f : α → β) (s : Session)
    (step : Tables → Except ConstraintFault (Tables × α)) :
    report f (s.write step) = s.write fun t => (step t).map fun after => (after.1, f after.2) := by
  simp only [report, write]
  cases step s.working <;> rfl

/-- A report on what is committed is a report on the step too. -/
theorem report_transact (f : α → β) (s : Session)
    (step : Tables → Except ConstraintFault (Tables × α)) :
    report f (s.transact step) =
      s.transact fun t => (step t).map fun after => (after.1, f after.2) := by
  simp only [report, transact, write]
  cases step s.working <;> rfl

/-- A session saves what its tables do, and commits it or not. -/
theorem saveCounted_eq (s : Session) (what : Save) : s.saveCounted what =
    if what.commits then s.transact fun t => t.save what else s.write fun t => t.save what := by
  cases what with
  | nodes ns => exact report_write _ s fun t => .ok (t.saveNodes ns)
  | courses cs => exact report_write _ s fun t => t.saveCourses cs
  | relations rs => exact report_write _ s fun t => .ok (t.saveRelations rs)
  | graph ns cs rs => exact report_transact _ s fun t => t.saveGraph ns cs rs
  | quarters pairs => exact report_transact _ s fun t => t.saveQuarters pairs
  | subjects pairs => exact report_transact _ s fun t => t.saveSubjects pairs
  | links quarter codes => exact report_transact _ s fun t => t.saveLinks quarter codes
  | details ds => exact report_transact _ s fun t => t.saveDetails ds

end Session

/-! ## Courses -/

/-- A detail that is given, and not by the empty text, stays given. -/
def StaysGiven (old new : Option String) : Prop :=
  ∀ detail, old = some detail → detail ≠ "" → ∃ detail', new = some detail' ∧ detail' ≠ ""

/-- What is kept stays given. -/
theorem StaysGiven.refl (old : Option String) : StaysGiven old old :=
  fun detail hold hgiven => ⟨detail, hold, hgiven⟩

/-- What stays given in one change and then in another stays given in both. -/
theorem StaysGiven.trans {old new newest : Option String} (h : StaysGiven old new)
    (h' : StaysGiven new newest) : StaysGiven old newest := by
  intro detail hold hgiven
  obtain ⟨detail', hnew, hgiven'⟩ := h detail hold hgiven
  exact h' detail' hnew hgiven'

/-- What becomes of a stored course when something is saved; `detailed` says that these are
details of courses. -/
structure CourseRow.Grows (c : CourseRow) (detailed : Bool) (c' : CourseRow) : Prop where
  key : c'.key = c.key
  nodeId : c'.nodeId = c.nodeId
  name : StaysGiven c.name c'.name
  units : StaysGiven c.units c'.units
  level : StaysGiven c.level c'.level
  description : StaysGiven c.description c'.description
  /-- Without details no name is replaced, -/
  named : detailed = false → c.name ≠ none → c'.name = c.name
  /-- and nothing but the name is touched. -/
  untouched : detailed = false →
    c'.units = c.units ∧ c'.level = c.level ∧ c'.description = c.description

namespace CourseRow

variable {c c' c'' : CourseRow} {detailed : Bool}

/-- A course may stay as it is. -/
theorem Grows.refl (c : CourseRow) (detailed : Bool) : c.Grows detailed c where
  key := rfl
  nodeId := rfl
  name := .refl _
  units := .refl _
  level := .refl _
  description := .refl _
  named _ _ := rfl
  untouched _ := ⟨rfl, rfl, rfl⟩

/-- What may become of a course without details may become of it with details. -/
theorem Grows.withDetails (h : c.Grows detailed c') : c.Grows true c' :=
  { h with
    named := nofun
    untouched := nofun }

/-- One change may follow another. -/
theorem Grows.trans (h : c.Grows detailed c') (h' : c'.Grows detailed c'') :
    c.Grows detailed c'' where
  key := h'.key.trans h.key
  nodeId := h'.nodeId.trans h.nodeId
  name := h.name.trans h'.name
  units := h.units.trans h'.units
  level := h.level.trans h'.level
  description := h.description.trans h'.description
  named := by
    intro hdetailed hname
    have hsame : c'.name = c.name := h.named hdetailed hname
    have hname' : c'.name ≠ none := by rwa [hsame]
    exact (h'.named hdetailed hname').trans hsame
  untouched := by
    intro hdetailed
    obtain ⟨hunits, hlevel, hdescription⟩ := h.untouched hdetailed
    obtain ⟨hunits', hlevel', hdescription'⟩ := h'.untouched hdetailed
    exact ⟨hunits'.trans hunits, hlevel'.trans hlevel, hdescription'.trans hdescription⟩

end CourseRow

namespace Tables

variable {t t' t'' : Tables} {detailed : Bool}

/-- A name is given only to a course that has none. -/
theorem grows_nameCourse (name : Option String) (c : CourseRow) :
    c.Grows detailed (nameCourse name c) := by
  by_cases h : c.name = none ∧ name ≠ some ""
  · have hgiven : nameCourse name c = { c with name } := if_pos h
    rw [hgiven]
    -- There was no name that could be lost or replaced.
    exact
      { CourseRow.Grows.refl c detailed with
        name := fun detail hold _ => by simp [h.1] at hold
        named := fun _ hname => absurd h.1 hname }
  · have hkept : nameCourse name c = c := if_neg h
    rw [hkept]
    exact .refl c detailed

/-- A course grows when its name is given by a batch of courses. -/
theorem grows_nameAmong (keys : List (String × String)) (name : String × String → Option String)
    (c : CourseRow) : c.Grows detailed (nameAmong keys name c) := by
  rw [nameAmong]
  split
  · exact grows_nameCourse _ c
  · exact .refl c detailed

/-- A new detail replaces the old one unless it is the empty text. -/
theorem staysGiven_newer (given : String) (old : Option String) :
    StaysGiven old (newer given old) := by
  unfold newer
  split
  · exact .refl old
  next h =>
    have hgiven : given ≠ "" := by simpa using h
    exact fun _ _ _ => ⟨given, rfl, hgiven⟩

/-- Details may replace a name and whatever else they give. -/
theorem grows_detailCourse (d : CourseDetails) (c : CourseRow) :
    c.Grows true (detailCourse d c) where
  key := rfl
  nodeId := rfl
  name := staysGiven_newer d.name c.name
  units := staysGiven_newer d.units c.units
  level := staysGiven_newer d.level c.level
  description := staysGiven_newer d.description c.description
  named := nofun
  untouched := nofun

/-! ## Tables -/

/-- What becomes of the tables when something is saved: new rows come behind the stored ones, and of
these only courses change. -/
structure Grows (t : Tables) (detailed : Bool) (t' : Tables) : Prop where
  nodes : t.nodes <+: t'.nodes
  courses : ∃ change fresh, t'.courses = t.courses.map change ++ fresh ∧
    (∀ c : CourseRow, c.Grows detailed (change c)) ∧
    (detailed = false → ∀ c ∈ fresh, c.units = none ∧ c.level = none ∧ c.description = none)
  relations : t.relations <+: t'.relations
  quarters : t.quarters <+: t'.quarters
  subjects : t.subjects <+: t'.subjects
  links : t.links <+: t'.links

/-- Tables may stay as they are. -/
theorem Grows.refl (t : Tables) (detailed : Bool) : t.Grows detailed t where
  nodes := List.prefix_refl _
  courses := ⟨id, [], by simp, fun c => .refl c detailed, fun _ => List.forall_mem_nil _⟩
  relations := List.prefix_refl _
  quarters := List.prefix_refl _
  subjects := List.prefix_refl _
  links := List.prefix_refl _

/-- What may become of tables without details may become of them with details. -/
theorem Grows.withDetails (h : t.Grows detailed t') : t.Grows true t' :=
  { h with
    courses := by
      obtain ⟨change, fresh, hcourses, hchange, -⟩ := h.courses
      exact ⟨change, fresh, hcourses, fun c => (hchange c).withDetails, nofun⟩ }

/-- They may grow again. -/
theorem Grows.trans (h : t.Grows detailed t') (h' : t'.Grows detailed t'') :
    t.Grows detailed t'' where
  nodes := h.nodes.trans h'.nodes
  courses := by
    obtain ⟨change, fresh, hcourses, hchange, hfresh⟩ := h.courses
    obtain ⟨change', fresh', hcourses', hchange', hfresh'⟩ := h'.courses
    refine ⟨change' ∘ change, fresh.map change' ++ fresh', ?_, ?_, ?_⟩
    · rw [hcourses', hcourses, List.map_append, List.map_map, List.append_assoc]
    · exact fun c => (hchange c).trans (hchange' (change c))
    · -- What was new at first has been changed since, but not in the three details.
      intro hdetailed
      refine List.forall_mem_append.2 ⟨?_, hfresh' hdetailed⟩
      intro c hc
      obtain ⟨c₀, hc₀, rfl⟩ := List.mem_map.1 hc
      obtain ⟨hunits, hlevel, hdescription⟩ := (hchange' c₀).untouched hdetailed
      rw [hunits, hlevel, hdescription]
      exact hfresh hdetailed c₀ hc₀
  relations := h.relations.trans h'.relations
  quarters := h.quarters.trans h'.quarters
  subjects := h.subjects.trans h'.subjects
  links := h.links.trans h'.links

/-- What arrives goes to the end. -/
theorem prefix_addAll {α κ : Type} [DecidableEq κ] (key : α → κ) (xs ys : List α) :
    xs <+: addAll key xs ys := by
  rw [addAll_eq_append]
  exact List.prefix_append xs _

/-- Tables grow when a graph is saved. -/
theorem grows_afterGraph (t : Tables) (detailed : Bool) (ns : List Node) (cs : List Course)
    (rs : List Relation) : t.Grows detailed (t.afterGraph ns cs rs) where
  nodes := (prefix_addAll Node.id t.nodes ns).trans (prefix_addAll Node.id _ _)
  courses := by
    refine ⟨_, _, rfl, grows_nameAmong _ _, fun _ c hc => ?_⟩
    obtain ⟨key, -, rfl⟩ := List.mem_map.1 hc
    exact ⟨rfl, rfl, rfl⟩
  relations := prefix_addAll id t.relations rs
  quarters := List.prefix_refl _
  subjects := List.prefix_refl _
  links := List.prefix_refl _

/-- Tables grow when nodes are saved. -/
theorem grows_saveNodes (t : Tables) (detailed : Bool) (ns : List Node) :
    t.Grows detailed (t.saveNodes ns).1 := by
  have hafter : t.Grows detailed (t.afterGraph ns [] []) := grows_afterGraph t detailed ns [] []
  rw [nodes_saveNodes]
  rwa [afterGraph_nil] at hafter

/-- Tables grow when relations are saved. -/
theorem grows_saveRelations (t : Tables) (detailed : Bool) (rs : List Relation) :
    t.Grows detailed (t.saveRelations rs).1 := by
  have hafter : t.Grows detailed (t.afterGraph [] [] rs) := grows_afterGraph t detailed [] [] rs
  rw [relations_saveRelations]
  rwa [afterGraph_nil] at hafter

/-- Tables grow when courses are saved. -/
theorem grows_saveCourses {cs : List Course} {saved : Saved}
    (h : t.saveCourses cs = .ok (t', saved)) : t.Grows detailed t' := by
  obtain ⟨-, rfl⟩ := exists_saveCourses_iff.1 ⟨saved, h⟩
  exact grows_afterGraph t detailed [] cs []

/-- Tables grow when a whole graph is saved. -/
theorem grows_saveGraph {ns : List Node} {cs : List Course} {rs : List Relation}
    {saved : GraphSaved} (h : t.saveGraph ns cs rs = .ok (t', saved)) : t.Grows detailed t' := by
  obtain ⟨-, rfl⟩ := exists_saveGraph_iff.1 ⟨saved, h⟩
  exact grows_afterGraph t detailed ns cs rs

/-- Tables grow when a stored course does. -/
theorem grows_updateCourse (t : Tables) (key : String × String) {f : CourseRow → CourseRow}
    (hf : ∀ c : CourseRow, c.Grows detailed (f c)) : t.Grows detailed (t.updateCourse key f) :=
  { Grows.refl t detailed with
    courses := by
      refine ⟨fun c => if c.key = key then f c else c, [], by simp [updateCourse], fun c => ?_,
        fun _ => List.forall_mem_nil _⟩
      dsimp only
      split
      · exact hf c
      · exact .refl c detailed }

/-- Tables grow when a course with its details is inserted. -/
theorem grows_append (t : Tables) (c : CourseRow) :
    t.Grows true { t with courses := t.courses ++ [c] } :=
  { Grows.refl t true with
    courses := ⟨id, [c], by simp, fun c => .refl c true, nofun⟩ }

/-- Tables grow when details are saved one by one. -/
theorem grows_saveDetailsOf {ds : List CourseDetails} {saved saved' : DetailsSaved}
    (h : saveDetailsOf saved t ds = .ok (t', saved')) : t.Grows true t' := by
  induction ds generalizing t saved with
  | nil =>
    rw [saveDetailsOf] at h
    cases h
    exact .refl _ true
  | cons d ds ih =>
    rw [saveDetailsOf] at h
    dsimp only at h
    split at h
    next => exact (grows_updateCourse _ _ (grows_detailCourse d)).trans (ih h)
    next =>
      rw [insertCourse_eq] at h
      split at h
      next => cases h
      next => exact (grows_append _ _).trans (ih h)

/-- Tables grow when details are saved, the nodes of their courses first. -/
theorem grows_saveDetails {ds : List CourseDetails} {saved : DetailsSaved}
    (h : t.saveDetails ds = .ok (t', saved)) : t.Grows true t' :=
  (grows_saveNodes t true _).trans (grows_saveDetailsOf h)

variable {n : Nat}

/-- Tables grow when quarters are saved. -/
theorem grows_saveQuarters {pairs : List (Option String × Option String)}
    (h : t.saveQuarters pairs = .ok (t', n)) : t.Grows detailed t' := by
  rw [saveQuarters_eq, map_eq_ok] at h
  obtain ⟨after, hafter, heq⟩ := h
  obtain ⟨fresh, hfresh, -⟩ := insertEach_eq_ok hafter
  cases heq
  exact { Grows.refl t detailed with quarters := hfresh ▸ List.prefix_append _ fresh }

/-- Tables grow when subject areas are saved. -/
theorem grows_saveSubjects {pairs : List (Option String × Option String)}
    (h : t.saveSubjects pairs = .ok (t', n)) : t.Grows detailed t' := by
  rw [saveSubjects_eq, map_eq_ok] at h
  obtain ⟨after, hafter, heq⟩ := h
  obtain ⟨fresh, hfresh, -⟩ := insertEach_eq_ok hafter
  cases heq
  exact { Grows.refl t detailed with subjects := hfresh ▸ List.prefix_append _ fresh }

/-- Tables grow when links are saved. -/
theorem grows_saveLinks {quarter : Option String} {codes : List (Option String)}
    (h : t.saveLinks quarter codes = .ok (t', n)) : t.Grows detailed t' := by
  rw [saveLinks_eq, map_eq_ok] at h
  obtain ⟨after, hafter, heq⟩ := h
  obtain ⟨fresh, hfresh, -⟩ := insertEach_eq_ok hafter
  cases heq
  exact { Grows.refl t detailed with links := hfresh ▸ List.prefix_append _ fresh }

/-- Whatever is saved, the tables grow. -/
theorem grows_save {what : Save} {inserted : Inserted} (h : t.save what = .ok (t', inserted)) :
    t.Grows what.savesDetails t' := by
  cases what with
  | nodes ns =>
    cases h
    exact grows_saveNodes t false ns
  | relations rs =>
    cases h
    exact grows_saveRelations t false rs
  | courses cs =>
    obtain ⟨after, hafter, heq⟩ := map_eq_ok.1 h
    cases heq
    exact grows_saveCourses hafter
  | graph ns cs rs =>
    obtain ⟨after, hafter, heq⟩ := map_eq_ok.1 h
    cases heq
    exact grows_saveGraph hafter
  | quarters pairs =>
    obtain ⟨after, hafter, heq⟩ := map_eq_ok.1 h
    cases heq
    exact grows_saveQuarters hafter
  | subjects pairs =>
    obtain ⟨after, hafter, heq⟩ := map_eq_ok.1 h
    cases heq
    exact grows_saveSubjects hafter
  | links quarter codes =>
    obtain ⟨after, hafter, heq⟩ := map_eq_ok.1 h
    cases heq
    exact grows_saveLinks hafter
  | details ds =>
    obtain ⟨after, hafter, heq⟩ := map_eq_ok.1 h
    cases heq
    exact grows_saveDetails hafter

end Tables

/-! ## Sessions -/

namespace Session

variable {s s' : Session}

/-- A session saves what its tables do, and counts what they count. -/
theorem save_of_saveCounted {what : Save} {inserted : Inserted}
    (h : s.saveCounted what = (s', .ok inserted)) :
    s.working.save what = .ok (s'.working, inserted) := by
  rw [saveCounted_eq] at h
  split at h
  · obtain ⟨t, hsave, rfl⟩ := transact_eq_ok_iff.1 h
    exact hsave
  · obtain ⟨t, hsave, rfl⟩ := write_eq_ok_iff.1 h
    exact hsave

/-- A session saves exactly what its tables do. -/
theorem exists_save_of_save {what : Save} (h : s.save what = (s', .ok ())) :
    ∃ inserted, s.working.save what = .ok (s'.working, inserted) := by
  obtain ⟨hs', hok⟩ := Prod.mk.inj ((uncounted_saveCounted s what).trans h)
  obtain ⟨inserted, hinserted, -⟩ := map_eq_ok.1 hok
  exact ⟨inserted, save_of_saveCounted (Prod.ext hs' hinserted)⟩

/-- A session whose save succeeds works on tables that have grown: no row is gone, none has changed
but for what a course is given, and only details replace a name or touch the others. -/
theorem grows_of_save {what : Save} (h : s.save what = (s', .ok ())) :
    s.working.Grows what.savesDetails s'.working := by
  obtain ⟨inserted, hsave⟩ := exists_save_of_save h
  exact Tables.grows_save hsave

/-- A store with a course whose name is the empty text, and whose units are known. -/
def withUnits : Session :=
  let t : Tables :=
    { nodes := [⟨"M#1", .value⟩]
      courses := [⟨"M", "1", "M#1", some "", some "4", none, none⟩] }
  { committed := t, working := t }

/-- Details that give a name and not the units, and then a new course. -/
def moreDetails : Save :=
  .details [{ subject := "M", catalog := "1", name := "Logic" },
    { subject := "M", catalog := "2", name := "", level := "Graduate" }]

/-- The empty name is replaced, the units stay, and the new course comes behind. -/
theorem grows_of_save_moreDetails : ∃ s,
    withUnits.save moreDetails = (s, .ok ()) ∧
      s.working.courses.map CourseRow.name = [some "Logic", none] ∧
      s.working.courses.map CourseRow.units = [some "4", none] ∧
      withUnits.working.Grows moreDetails.savesDetails s.working := by
  let t : Tables :=
    { nodes := [⟨"M#1", .value⟩, ⟨"M#2", .value⟩]
      courses := [⟨"M", "1", "M#1", some "Logic", some "4", none, none⟩,
        ⟨"M", "2", "M#2", none, none, some "Graduate", none⟩] }
  have hsave : withUnits.save moreDetails = ({ committed := t, working := t }, .ok ()) := by
    decide +kernel
  exact ⟨_, hsave, rfl, rfl, grows_of_save hsave⟩

/-! ## Histories -/

/-- Where the committed tables and those at work have grown from some tables, they still have after
a save, also after one that is refused. -/
theorem Both.grows_save {t₀ : Tables} (h : s.Both (t₀.Grows true)) (what : Save) :
    (s.save what).1.Both (t₀.Grows true) := by
  have hstep {t : Tables} {inserted : Inserted} (hsave : s.working.save what = .ok (t, inserted)) :
      t₀.Grows true t := h.working.trans (Tables.grows_save hsave).withDetails
  have hcounted : (s.save what).1 = (s.saveCounted what).1 := by
    rw [← uncounted_saveCounted]
    rfl
  rw [hcounted, saveCounted_eq]
  split
  · exact h.transact _ hstep
  · exact h.write _ hstep

/-- However much is saved, and whatever of it is refused, what was committed is not lost: the
committed tables have grown from those before. -/
theorem committed_grows_saveAll (h : s.committed.Grows true s.working) (saves : List Save) :
    s.committed.Grows true (s.saveAll saves).committed := by
  have hboth (s₁ : Session) (h₁ : s₁.Both (s.committed.Grows true)) :
      (s₁.saveAll saves).Both (s.committed.Grows true) := by
    induction saves generalizing s₁ with
    | nil => exact h₁
    | cons what saves ih => exact ih _ (h₁.grows_save what)
  exact (hboth s ⟨.refl _ true, h⟩).committed

end Session

end Requisite
