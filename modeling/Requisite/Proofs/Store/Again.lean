import Requisite.Proofs.Store.Saving

/-!
# Saving a graph again

After a graph is saved, every id, key and relation of it is known, and every course that it names
has a name or was given none. So the tables that come after the same graph are the same tables
(`afterGraph_self`), and it is not refused, since it has no new course (`admits_rowsAfter_self`).
What is counted as inserted is what the tables have grown by (`inserted_saveGraph`), and that is
nothing. This is said of tables in `exists_saveGraph_self`, and of a session in `saveGraph_again`.
-/

namespace Requisite

namespace Tables

variable {rows : List CourseRow} {keys : List (String × String)} {key : String × String}
  {name : String × String → Option String}

/-! ## The same courses -/

/-- The same name given again changes nothing. -/
theorem nameCourse_nameCourse (name : Option String) (d : CourseRow) :
    nameCourse name (nameCourse name d) = nameCourse name d := by
  by_cases h : d.name = none ∧ name ≠ some ""
  · -- The name may be none itself, and then it is given again.
    have hnamed : nameCourse name d = { d with name } := if_pos h
    rw [hnamed, nameCourse]
    split <;> rfl
  · have hkept : nameCourse name d = d := if_neg h
    rw [hkept, hkept]

/-- The same names given again change nothing. -/
theorem nameAmong_nameAmong (d : CourseRow) :
    nameAmong keys name (nameAmong keys name d) = nameAmong keys name d := by
  by_cases h : d.key ∈ keys
  · have hnamed : nameAmong keys name d = nameCourse (name d.key) d := if_pos h
    rw [hnamed, nameAmong, key_nameCourse, if_pos h, nameCourse_nameCourse]
  · rw [nameAmong_of_not_mem h, nameAmong_of_not_mem h]

/-- A new course has the name for its key. -/
theorem nameAmong_newRow (key : String × String) :
    nameAmong keys name (newRow name key) = newRow name key := by
  rw [nameAmong, nameCourse, key_newRow]
  split
  · split <;> rfl
  · rfl

/-- The keys of saved courses are not new. -/
theorem newKeys_rowsAfter_self : newKeys (rowsAfter rows keys name) keys = [] := by
  refine List.filter_eq_nil_iff.2 fun key hkey hnew => ?_
  exact of_decide_eq_true hnew (mem_map_key_rowsAfter hkey)

/-- After the same courses the rows are the same. -/
theorem rowsAfter_rowsAfter_self :
    rowsAfter (rowsAfter rows keys name) keys name = rowsAfter rows keys name := by
  have hold : (rows.map (nameAmong keys name)).map (nameAmong keys name) =
      rows.map (nameAmong keys name) := by
    rw [List.map_map]
    exact List.map_congr_left fun d _ => nameAmong_nameAmong d
  have hnew : ((newKeys rows keys).map (newRow name)).map (nameAmong keys name) =
      (newKeys rows keys).map (newRow name) := by
    rw [List.map_map]
    exact List.map_congr_left fun key _ => nameAmong_newRow key
  rw [rowsAfter, newKeys_rowsAfter_self, rowsAfter, List.map_append, hold, hnew, List.map_nil,
    List.append_nil]

/-- The same courses are admitted. -/
theorem admits_rowsAfter_self : Admits (rowsAfter rows keys name) keys := by
  rw [admits_iff, newKeys_rowsAfter_self]
  exact ⟨List.nodup_nil, List.forall_mem_nil _⟩

/-! ## The same graph -/

variable {t t' : Tables} {ns : List Node} {cs : List Course} {rs : List Relation}

/-- A saved node is known. -/
theorem addAll_nodes_afterGraph :
    addAll Node.id (t.afterGraph ns cs rs).nodes ns = (t.afterGraph ns cs rs).nodes := by
  refine addAll_of_forall_mem fun n hn => ?_
  rw [afterGraph, mem_map_addAll, mem_map_addAll]
  exact .inl (.inr (List.mem_map_of_mem hn))

/-- A saved relation is known. -/
theorem addAll_relations_afterGraph :
    addAll id (t.afterGraph ns cs rs).relations rs = (t.afterGraph ns cs rs).relations := by
  refine addAll_of_forall_mem fun r hr => ?_
  rw [List.map_id]
  exact mem_addAll_id.2 (.inr hr)

/-- After the same graph the tables are the same. -/
theorem afterGraph_self : (t.afterGraph ns cs rs).afterGraph ns cs rs = t.afterGraph ns cs rs := by
  have hcourseNodes : addAll Node.id (t.afterGraph ns cs rs).nodes
      (cs.map fun c => courseNode c.nodeId) = (t.afterGraph ns cs rs).nodes := by
    refine addAll_of_forall_mem fun n hn => ?_
    rw [afterGraph, mem_map_addAll]
    exact .inr (List.mem_map_of_mem hn)
  rw [afterGraph, addAll_nodes_afterGraph, hcourseNodes, addAll_relations_afterGraph]
  congr 1
  exact rowsAfter_rowsAfter_self

/-! ## What is counted -/

/-- As many nodes are inserted as there are rows more. -/
theorem inserted_saveNodes (t : Tables) (ns : List Node) :
    (t.saveNodes ns).2.inserted + t.nodes.length = (t.saveNodes ns).1.nodes.length := by
  simp [saveNodes, Nat.add_comm]

/-- As many relations are inserted as there are rows more. -/
theorem inserted_saveRelations (t : Tables) (rs : List Relation) :
    (t.saveRelations rs).2.inserted + t.relations.length =
      (t.saveRelations rs).1.relations.length := by
  simp [saveRelations, Nat.add_comm]

/-- As many rows of each table are inserted as there are more, apart from the nodes of courses,
which are not counted. -/
theorem inserted_saveGraph {saved : GraphSaved} (h : t.saveGraph ns cs rs = .ok (t', saved)) :
    saved.nodes.inserted + t.nodes.length ≤ t'.nodes.length ∧
      saved.courses.inserted + t.courses.length = t'.courses.length ∧
      saved.relations.inserted + t.relations.length = t'.relations.length := by
  obtain ⟨hnodes, u, hcourses, hrelations⟩ := saveGraph_eq_ok_iff.1 h
  obtain ⟨-, hu⟩ := exists_saveCourses_iff.1 ⟨_, hcourses⟩
  obtain ⟨rfl, hsaved⟩ : (u.saveRelations rs).1 = t' ∧ (u.saveRelations rs).2 = saved.relations :=
    Prod.ext_iff.1 hrelations
  refine ⟨?_, ?_, ?_⟩
  · -- The nodes of the courses come after those that are counted.
    have hall : (u.saveRelations rs).1.nodes =
        addAll Node.id (t.saveNodes ns).1.nodes (cs.map fun c => courseNode c.nodeId) := by
      rw [hu]
      rfl
    rw [← hnodes, inserted_saveNodes, hall, addAll_eq_append, List.length_append]
    exact Nat.le_add_right _ _
  · have hgrown := inserted_saveCoursesAfter hcourses
    rwa [Nat.zero_add] at hgrown
  · have hkept : u.relations = t.relations := by
      rw [hu]
      rfl
    rw [← hsaved, ← hkept]
    exact inserted_saveRelations u rs

/-- A graph that was saved is saved again without a change, and nothing is counted as inserted. -/
theorem exists_saveGraph_self {saved : GraphSaved} (h : t.saveGraph ns cs rs = .ok (t', saved)) :
    ∃ again, t'.saveGraph ns cs rs = .ok (t', again) ∧ again.nodes.inserted = 0 ∧
      again.courses.inserted = 0 ∧ again.relations.inserted = 0 := by
  obtain ⟨-, rfl⟩ := exists_saveGraph_iff.1 ⟨saved, h⟩
  obtain ⟨again, hagain⟩ := exists_saveGraph_iff.2 ⟨admits_rowsAfter_self, afterGraph_self.symm⟩
  obtain ⟨hnodes, hcourses, hrelations⟩ := inserted_saveGraph hagain
  exact ⟨again, hagain, by omega, by omega, by omega⟩

end Tables

/-- A graph that was saved can be saved again. Then the session stays as it is, and nothing is
counted as inserted. -/
theorem Session.saveGraph_again {s s' : Session} {ns : List Node} {cs : List Course}
    {rs : List Relation} {saved : GraphSaved} (h : s.saveGraph ns cs rs = (s', .ok saved)) :
    ∃ again, s'.saveGraph ns cs rs = (s', .ok again) ∧ again.nodes.inserted = 0 ∧
      again.courses.inserted = 0 ∧ again.relations.inserted = 0 := by
  obtain ⟨t, hsave, rfl⟩ := saveGraph_eq_ok_iff.1 h
  obtain ⟨again, hagain, hnone⟩ := Tables.exists_saveGraph_self hsave
  exact ⟨again, saveGraph_eq_ok_iff.2 ⟨t, hagain, rfl⟩, hnone⟩

/-- A store in which the course `M 1` has no name. -/
def Session.unnamed : Session :=
  let t : Tables :=
    { nodes := [⟨"M#1", .value⟩], courses := [{ subject := "M", catalog := "1", nodeId := "M#1" }] }
  { committed := t, working := t }

/-- Records that repeat and contradict each other: two kinds for one node, and several names, or
none, for one course. -/
def Session.saveRepeats (s : Session) : Session × Except ConstraintFault GraphSaved :=
  s.saveGraph [⟨"A", .value⟩, ⟨"A", .and⟩]
    [{ subject := "M", catalog := "1", name := some "Logic" },
      { subject := "M", catalog := "1", name := some "Sets" },
      { subject := "M", catalog := "2" },
      { subject := "M", catalog := "2", name := some "Proofs" }]
    [{ source := "M#1", target := "A" }, { source := "M#1", target := "A" }]

/-- `M 1` takes its first name and `M 2` none, and the second time this is still so. -/
theorem Session.saveGraph_again_saveRepeats : ∃ s saved again,
    unnamed.saveRepeats = (s, .ok saved) ∧
      s.working.courses.map CourseRow.name = [some "Logic", none] ∧
      saved.courses.inserted = 1 ∧ s.saveRepeats = (s, .ok again) ∧ again.nodes.inserted = 0 ∧
      again.courses.inserted = 0 ∧ again.relations.inserted = 0 := by
  let t : Tables :=
    { nodes := [⟨"M#1", .value⟩, ⟨"A", .value⟩, ⟨"M#2", .value⟩]
      courses := [{ subject := "M", catalog := "1", nodeId := "M#1", name := some "Logic" },
        { subject := "M", catalog := "2", nodeId := "M#2" }]
      relations := [{ source := "M#1", target := "A" }] }
  have hsave : unnamed.saveRepeats =
      ({ committed := t, working := t }, .ok ⟨⟨1, 0⟩, ⟨1, 3⟩, ⟨1, 1⟩⟩) := by decide +kernel
  obtain ⟨again, hagain, hinserted⟩ := saveGraph_again hsave
  exact ⟨_, _, again, hsave, rfl, rfl, hagain, hinserted⟩

end Requisite
