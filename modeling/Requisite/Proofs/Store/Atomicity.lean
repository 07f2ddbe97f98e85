import Requisite.Proofs.Store.Details
import Requisite.Proofs.Store.Programs

/-!
# All or nothing

A save that commits does all of its work or none. Whichever of its statements the store refuses,
what was committed before it is still what is committed, because its only commit comes after all
else (`Program.committed_of_refused`). And where nothing is refused, the rows that the save counts
as inserted are committed (`Tables.Gains`): of all that the batch brings, each that had no row has
one behind the rows before.

Both are said of the save as a program of statements, on any store, and as a step of the session,
which the program agrees with on the tables (`Session.saves_all_or_nothing`).
-/

namespace Requisite

open Schedule

/-! ## What a save gains -/

/-- Of a batch, the elements whose keys are new are rows now, each once and behind the old rows, and
`count` is their number. -/
structure Gained {α κ : Type} [DecidableEq κ] (key : α → κ) (old batch new : List α) (count : Nat) :
    Prop where
  stored : addAll key old batch <+: new
  counted : (addAll key old batch).length = old.length + count

section

variable {α κ : Type} [DecidableEq κ] {key : α → κ} {old batch new : List α} {count : Nat}

/-- Without a batch nothing is gained. -/
theorem Gained.nothing (hnew : old <+: new) : Gained key old [] new 0 :=
  ⟨hnew, rfl⟩

/-- What arrives is gained, if all new rows are counted. -/
theorem Gained.of_addAll (hnew : addAll key old batch = new)
    (hcount : count + old.length = new.length) : Gained key old batch new count where
  stored := hnew ▸ List.prefix_refl _
  counted := by rw [hnew, ← hcount, Nat.add_comm]

/-- More rows may come behind those that are gained. -/
theorem Gained.append (h : Gained key old batch new count) {newer : List α} (hnew : new <+: newer) :
    Gained key old batch newer count :=
  ⟨h.stored.trans hnew, h.counted⟩

end

/-- The row that the details of a course bring. -/
def Tables.detailedRow (d : CourseDetails) : CourseRow :=
  detailCourse d { subject := d.subject, catalog := d.catalog, nodeId := detailsNodeId d }

/-- The rows that a save brings, whether they are stored already or not. -/
def Save.rows : Save → Tables
  | .nodes ns => { nodes := ns }
  | .courses cs => { courses := cs.map Course.row }
  | .relations rs => { relations := rs }
  | .graph ns cs rs => { nodes := ns, courses := cs.map Course.row, relations := rs }
  | .quarters pairs =>
    { quarters := pairs.filterMap fun pair => (Tables.quarterRow? pair).toOption }
  | .subjects pairs =>
    { subjects := pairs.filterMap fun pair => (Tables.subjectRow? pair).toOption }
  | .links quarter codes =>
    { links := (firsts id codes).filterMap fun code => (Tables.linkRow? quarter code).toOption }
  | .details ds => { courses := ds.map Tables.detailedRow }

namespace Tables

variable {t t' : Tables}

/-- What a save gains, table by table, as it is counted. Courses are told by their keys. -/
structure Gains (t : Tables) (what : Save) (n : Inserted) (t' : Tables) : Prop where
  nodes : Gained Node.id t.nodes what.rows.nodes t'.nodes n.nodes
  courses : Gained id (t.courses.map CourseRow.key) (what.rows.courses.map CourseRow.key)
    (t'.courses.map CourseRow.key) n.courses
  relations : Gained id t.relations what.rows.relations t'.relations n.relations
  quarters : Gained Quarter.code t.quarters what.rows.quarters t'.quarters n.quarters
  subjects : Gained SubjectArea.code t.subjects what.rows.subjects t'.subjects n.subjects
  links : Gained id t.links what.rows.links t'.links n.links

/-- Saved nodes are gained. -/
theorem gained_saveNodes (t : Tables) (ns : List Node) :
    Gained Node.id t.nodes ns (t.saveNodes ns).1.nodes (t.saveNodes ns).2.inserted :=
  .of_addAll (congrArg Tables.nodes (nodes_saveNodes t ns)).symm (inserted_saveNodes t ns)

/-- Saved relations are gained. -/
theorem gained_saveRelations (t : Tables) (rs : List Relation) :
    Gained id t.relations rs (t.saveRelations rs).1.relations (t.saveRelations rs).2.inserted :=
  .of_addAll (congrArg Tables.relations (relations_saveRelations t rs)).symm
    (inserted_saveRelations t rs)

/-- The keys of courses are gained when the courses of a graph are saved, if all new ones are
counted. -/
theorem gained_afterGraph (t : Tables) (ns : List Node) (cs : List Course) (rs : List Relation)
    {n : Nat} (hcount : n + t.courses.length = (t.afterGraph ns cs rs).courses.length) :
    Gained id (t.courses.map CourseRow.key) ((cs.map Course.row).map CourseRow.key)
      ((t.afterGraph ns cs rs).courses.map CourseRow.key) n := by
  have hkeys : (cs.map Course.row).map CourseRow.key = cs.map Course.key := by
    rw [List.map_map]
    rfl
  rw [hkeys]
  refine .of_addAll (map_key_afterGraph t ns cs rs).symm ?_
  rwa [List.length_map, List.length_map]

/-- The keys of detailed courses are gained when their details are saved. -/
theorem gained_saveDetails {ds : List CourseDetails} {saved : DetailsSaved}
    (h : t.saveDetails ds = .ok (t', saved)) :
    Gained id (t.courses.map CourseRow.key) ((ds.map detailedRow).map CourseRow.key)
      (t'.courses.map CourseRow.key) saved.inserted := by
  have hkeys : (ds.map detailedRow).map CourseRow.key = ds.map CourseDetails.key := by
    rw [List.map_map]
    rfl
  have hcount := inserted_saveDetails h
  obtain ⟨-, rfl⟩ := exists_saveDetails_iff.1 ⟨saved, h⟩
  rw [hkeys]
  refine .of_addAll (map_key_afterDetails t ds).symm ?_
  rwa [List.length_map, List.length_map]

/-- Items that are inserted one by one are gained. -/
theorem gained_insertEach {ε α β κ : Type} [DecidableEq κ] {key : α → κ} {key? : β → Except ε κ}
    {row? : β → Except ε α} {rows rows' : List α} {items : List β} {n : Nat}
    (hkey : ∀ item k row, key? item = .ok k → row? item = .ok row → key row = k)
    (h : insertEach key key? row? rows items = .ok (rows', n)) :
    Gained key rows (items.filterMap fun item => (row? item).toOption) rows' n := by
  obtain ⟨fresh, hfresh, rfl⟩ := insertEach_eq_ok h
  refine .of_addAll (insertEach_eq_addAll hkey h).symm ?_
  rw [hfresh, List.length_append, Nat.add_comm]

/-- Tables that grow gain nothing, if there is nothing for them to gain. -/
theorem Grows.gains {detailed : Bool} (h : t.Grows detailed t') : t.Gains (.nodes []) {} t' where
  nodes := .nothing h.nodes
  courses := by
    obtain ⟨change, fresh, hcourses, hchange, -⟩ := h.courses
    have hkeys : (t.courses.map change).map CourseRow.key = t.courses.map CourseRow.key := by
      rw [List.map_map]
      exact List.map_congr_left fun c _ => (hchange c).key
    refine .nothing ?_
    rw [hcourses, List.map_append, hkeys]
    exact List.prefix_append _ _
  relations := .nothing h.relations
  quarters := .nothing h.quarters
  subjects := .nothing h.subjects
  links := .nothing h.links

/-- Whatever is saved, what it brings is gained. -/
theorem gains_save {what : Save} {n : Inserted} (h : t.save what = .ok (t', n)) :
    t.Gains what n t' := by
  -- A save brings rows for few tables, and the others gain nothing.
  have hnothing : t.Gains (.nodes []) {} t' := (grows_save h).gains
  cases what with
  | nodes ns =>
    cases h
    exact { hnothing with nodes := gained_saveNodes t ns }
  | relations rs =>
    cases h
    exact { hnothing with relations := gained_saveRelations t rs }
  | courses cs =>
    obtain ⟨⟨u, saved⟩, hsave, heq⟩ := map_eq_ok.1 h
    obtain ⟨rfl, rfl⟩ := Prod.mk.inj heq
    have hcount := inserted_saveCoursesAfter hsave
    rw [Nat.zero_add] at hcount
    obtain ⟨-, rfl⟩ := exists_saveCourses_iff.1 ⟨saved, hsave⟩
    exact { hnothing with courses := gained_afterGraph t [] cs [] hcount }
  | graph ns cs rs =>
    obtain ⟨⟨u, saved⟩, hsave, heq⟩ := map_eq_ok.1 h
    obtain ⟨rfl, rfl⟩ := Prod.mk.inj heq
    obtain ⟨hnodes, -⟩ := saveGraph_eq_ok_iff.1 hsave
    obtain ⟨-, hcourses, hrelations⟩ := inserted_saveGraph hsave
    obtain ⟨-, rfl⟩ := exists_saveGraph_iff.1 ⟨saved, hsave⟩
    have hsaved := gained_saveNodes t ns
    rw [hnodes, nodes_saveNodes] at hsaved
    exact { hnothing with
      nodes := hsaved.append (prefix_addAll Node.id _ _)
      courses := gained_afterGraph t ns cs rs hcourses
      relations := .of_addAll rfl hrelations }
  | quarters pairs =>
    obtain ⟨after, hsave, heq⟩ := map_eq_ok.1 h
    cases heq
    rw [saveQuarters_eq] at hsave
    obtain ⟨after, hafter, rfl⟩ := map_eq_ok.1 hsave
    exact { hnothing with quarters := gained_insertEach code_of_quarterRow? hafter }
  | subjects pairs =>
    obtain ⟨after, hsave, heq⟩ := map_eq_ok.1 h
    cases heq
    rw [saveSubjects_eq] at hsave
    obtain ⟨after, hafter, rfl⟩ := map_eq_ok.1 hsave
    exact { hnothing with subjects := gained_insertEach code_of_subjectRow? hafter }
  | links quarter codes =>
    obtain ⟨after, hsave, heq⟩ := map_eq_ok.1 h
    cases heq
    rw [saveLinks_eq] at hsave
    obtain ⟨after, hafter, rfl⟩ := map_eq_ok.1 hsave
    exact { hnothing with links := gained_insertEach id_of_linkRow? hafter }
  | details ds =>
    obtain ⟨⟨u, saved⟩, hsave, heq⟩ := map_eq_ok.1 h
    obtain ⟨rfl, rfl⟩ := Prod.mk.inj heq
    exact { hnothing with courses := gained_saveDetails hsave }

end Tables

/-! ## All or nothing -/

namespace Program

variable {ε α : Type} {execute : Tables → Statement → Except ε Tables}

/-- Where a program that commits when it is done comes to its end, all that was written is
committed, and nothing is left to be written. -/
theorem committed_of_done {p : Program α} (hp : p.CommitFree) {w w' : Transaction} {result : α}
    (hw : w.pending = []) (h : p.committing.run execute w = (w', .ok result)) :
    w'.committed = w'.written ∧ w'.pending = [] := by
  have hrun := run_committing execute hp hw
  split at hrun
  next t result' hdone =>
    rw [h] at hrun
    cases hrun
    exact ⟨rfl, rfl⟩
  next refusal hrefused =>
    obtain ⟨w'', hrun⟩ := hrun
    rw [h] at hrun
    cases hrun

end Program

namespace Session

/-- A save that commits, from a session with nothing uncommitted, does all of its work or none. On
any store, what was committed stays as it was if a statement is refused, and if none is, all that
was written is committed. On the tables, either a row breaks a constraint, and the session is as it
was, or the rows that are counted as inserted are committed. -/
theorem saves_all_or_nothing (s : Session) (what : Save) (hcommits : what.commits)
    (hclean : s.working = s.committed) :
    (∀ {ε : Type} (execute : Tables → Statement → Except ε Tables) (w : Transaction),
      (∀ refusal, (Program.ofSave what).committing.run execute s.begin = (w, .error refusal) →
        w.committed = s.committed) ∧
      (∀ inserted, (Program.ofSave what).committing.run execute s.begin = (w, .ok inserted) →
        w.committed = w.written ∧ w.pending = [])) ∧
    ((∃ w fault,
        (Program.ofSave what).committing.run Tables.execute s.begin =
          (w, .error (.constraint fault)) ∧
        s.saveCounted what = (s, .error fault)) ∨
      ∃ t inserted,
        (Program.ofSave what).committing.run Tables.execute s.begin =
          ({ committed := t, written := t }, .ok inserted) ∧
        s.saveCounted what = ({ committed := t, working := t }, .ok inserted) ∧
        s.committed.Gains what inserted t) := by
  have hfree : (Program.ofSave what).CommitFree := Program.commitFree_ofSave what
  refine ⟨fun execute w => ⟨fun refusal h => ?_, fun inserted h => ?_⟩, ?_⟩
  · exact Program.committed_of_refused hfree h
  · exact Program.committed_of_done hfree rfl h
  -- On the tables, the program and the session end as the tables do when they save.
  have hrun := Program.run_committing Tables.execute hfree (w := s.begin) rfl
  have hcarried : (Program.ofSave what).carryOut Tables.execute s.begin.written =
      refused (s.working.save what) := Program.carryOut_ofSave what
  rw [hcarried] at hrun
  rw [saveCounted_eq, if_pos hcommits]
  cases hsave : s.working.save what with
  | error fault =>
    rw [hsave] at hrun
    obtain ⟨w, hrun⟩ := hrun
    -- With nothing uncommitted, taking back what was written leads to where the session was.
    have hback : s.rollback = s := by
      obtain ⟨committed, working⟩ := s
      obtain rfl : working = committed := hclean
      rfl
    refine .inl ⟨w, fault, hrun, ?_⟩
    rw [transact, write, hsave]
    exact congrArg (·, _) hback
  | ok after =>
    obtain ⟨t, inserted⟩ := after
    rw [hsave] at hrun
    refine .inr ⟨t, inserted, hrun, transact_eq_ok_iff.2 ⟨t, hsave, rfl⟩, ?_⟩
    rw [← hclean]
    exact Tables.gains_save hsave

/-- Two courses that would have one node, after a course that is stored. -/
def clashingDetails : Save :=
  .details [{ subject := "M", catalog := "1", name := "Logic" },
    { subject := "A#B", catalog := "C", name := "" },
    { subject := "A", catalog := "B#C", name := "Sets" }]

/-- A store in which the course `M 1` has no name. -/
def withoutName : Session :=
  let t : Tables :=
    { nodes := [⟨"M#1", .value⟩], courses := [{ subject := "M", catalog := "1", nodeId := "M#1" }] }
  { committed := t, working := t }

/-- When the second of the two is refused, the name and the first are written, and not committed. -/
theorem saves_all_or_nothing_clashingDetails : ∃ w,
    (Program.ofSave clashingDetails).committing.run Tables.execute withoutName.begin =
        (w, .error (.constraint .sharedCourseNode)) ∧
      w.written.courses.map CourseRow.name = [some "Logic", none] ∧
      w.committed = withoutName.committed ∧
      withoutName.saveCounted clashingDetails = (withoutName, .error .sharedCourseNode) := by
  let run := (Program.ofSave clashingDetails).committing.run Tables.execute withoutName.begin
  have hend : run.2 = .error (.constraint .sharedCourseNode) := by decide +kernel
  have hwritten : run.1.written.courses.map CourseRow.name = [some "Logic", none] := by
    decide +kernel
  have hrun : run = (run.1, .error (.constraint .sharedCourseNode)) := Prod.ext rfl hend
  have hall := saves_all_or_nothing withoutName clashingDetails rfl rfl
  refine ⟨run.1, hrun, hwritten, (hall.1 _ _).1 _ hrun, ?_⟩
  rcases hall.2 with ⟨w, fault, hrun', hsave⟩ | ⟨t, inserted, hrun', -, -⟩
  · have hfault : Except.error (.constraint fault) = run.2 := (congrArg Prod.snd hrun').symm
    rw [hend] at hfault
    cases hfault
    exact hsave
  · have hdone : Except.ok inserted = run.2 := (congrArg Prod.snd hrun').symm
    rw [hend] at hdone
    cases hdone

end Session

end Requisite
