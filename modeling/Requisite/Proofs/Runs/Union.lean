import Requisite.Proofs.Runs.Kinds
import Requisite.Proofs.Store.Again

/-!
# Two runs saved one after the other

An accumulator and a store take in courses by different rules: the accumulator keeps one record for
each course and fills in its name, and the store takes what is new and fills in the names of stored
courses. Both come to the same. Where no name is empty, a course has the first name that it is ever
given, and saving fills in just that (`Naming.rowsAfter_rowsAfter`), so the rows after two batches
are those after all keys of both, each with the first name for it. That is what the union of two
accumulators holds (`firstName_union`), and the nodes of its courses bring nothing new, since tasks
record the nodes of all courses (`orderly_run`). So two runs are saved as their union is
(`saveTo_union`), and whether one is refused does not depend on it either (`admits_addAll`).
-/

namespace Requisite

namespace Accumulator

/-! ## Accumulators with one record for each course -/

/-- No two courses share a key, no name is empty, and the nodes of courses are recorded. -/
structure Orderly (acc : Accumulator) : Prop where
  keys : (acc.courses.map Course.key).Nodup
  named : ∀ c ∈ acc.courses, c.name ≠ some ""
  nodes : ∀ c ∈ acc.courses, c.nodeId ∈ acc.nodes.map Node.id

/-- Where no two courses share a key, the name for a key is that of its course. -/
theorem nameFor_eq_name {cs : List Course} (h : (cs.map Course.key).Nodup) {c : Course}
    (hc : c ∈ cs) : nameFor cs c.key = c.name := by
  induction cs with
  | nil => exact absurd hc List.not_mem_nil
  | cons d ds ih =>
    obtain ⟨hd, hds⟩ := List.nodup_cons.1 h
    rw [← List.singleton_append, nameFor_append, nameFor_singleton]
    rcases List.mem_cons.1 hc with rfl | hc
    · rw [if_pos rfl, nameFor_eq_none hd, Option.or_none]
    · have hne : d.key ≠ c.key := fun heq => hd (heq ▸ List.mem_map_of_mem hc)
      rw [if_neg hne, Option.none_or, ih hds hc]

/-- There the courses are their own records. -/
theorem gathered_of_nodup {cs : List Course} (h : (cs.map Course.key).Nodup) :
    gathered cs = cs := by
  have hsame : ∀ c ∈ cs, courseFor cs c.key = c := by
    intro c hc
    rw [courseFor, nameFor_eq_name h hc]
    rfl
  have hfirsts : firsts id (cs.map Course.key) = cs.map Course.key :=
    firsts_of_nodup (by rwa [List.map_id])
  rw [gathered, hfirsts, List.map_map]
  exact (List.map_congr_left hsame).trans (List.map_id cs)

/-- The record of a course has the name for its key. -/
theorem firstName_gathered (cs : List Course) : firstName (gathered cs) = nameFor cs := by
  funext key
  by_cases hkey : key ∈ cs.map Course.key
  · have hnodup : ((gathered cs).map Course.key).Nodup := map_key_gathered cs ▸ nodup_firsts _
    have hmem : courseFor cs key ∈ gathered cs := List.mem_map_of_mem (mem_firsts_id.2 hkey)
    have hfind := find?_of_mem hnodup hmem
    rw [firstName]
    exact (congrArg (·.bind Course.name) hfind).trans rfl
  · rw [nameFor_eq_none hkey, firstName_eq_none]
    rw [map_key_gathered]
    exact mt mem_firsts_id.1 hkey

/-- No key has the empty name, where no course has. -/
theorem nameFor_ne_empty {cs : List Course} (h : ∀ c ∈ cs, c.name ≠ some "")
    (key : String × String) : nameFor cs key ≠ some "" := by
  intro hempty
  obtain ⟨c, hc, hname⟩ := List.exists_of_findSome?_eq_some hempty
  split at hname
  · exact h c hc hname
  · exact Option.some_ne_none _ hname.symm

/-- Where no course has the empty name, no record of them has. -/
theorem named_gathered {cs : List Course} (h : ∀ c ∈ cs, c.name ≠ some "") :
    ∀ c ∈ gathered cs, c.name ≠ some "" := by
  intro c hc
  obtain ⟨key, -, rfl⟩ := List.mem_map.1 hc
  exact nameFor_ne_empty h key

/-! ## The union of two accumulators, and what it leaves in a store -/

/-- The accumulator after all that another has collected arrives. -/
def union (acc other : Accumulator) : Accumulator :=
  acc.run [.nodes other.nodes, .courses other.courses, .relations other.relations]

/-- The tables after all that was collected is saved to them. -/
def onto (acc : Accumulator) (t : Tables) : Tables :=
  t.afterGraph acc.nodes acc.courses acc.relations

/-- The keys of the union are those of the first accumulator, and then those of the second. -/
theorem keys_union (acc other : Accumulator) : (acc.union other).courses.map Course.key =
    addAll id (acc.courses.map Course.key) (other.courses.map Course.key) :=
  map_key_foldl_addCourse acc.courses other.courses

namespace Orderly

variable {acc other : Accumulator} (h : acc.Orderly)

include h

/-- The keys come once each. -/
theorem firsts_keys : firsts id (acc.courses.map Course.key) = acc.courses.map Course.key :=
  firsts_of_nodup (by simpa using h.keys)

/-- The names are names for the keys. -/
theorem naming : Tables.Naming (acc.courses.map Course.key) (firstName acc.courses) := by
  constructor
  · rw [← gathered_of_nodup h.keys, firstName_gathered]
    exact nameFor_ne_empty h.named
  · exact fun key => firstName_eq_none

/-- Its nodes are the only ones that are saved, since the nodes of its courses are among them. -/
theorem onto_eq (t : Tables) : acc.onto t =
    { t with
      nodes := addAll Node.id t.nodes acc.nodes
      courses := Tables.rowsAfter t.courses (acc.courses.map Course.key) (firstName acc.courses)
      relations := addAll id t.relations acc.relations } := by
  have hnodes : addAll Node.id (addAll Node.id t.nodes acc.nodes)
      (acc.courses.map fun c => Tables.courseNode c.nodeId) =
        addAll Node.id t.nodes acc.nodes := by
    refine addAll_of_forall_mem fun n hn => ?_
    obtain ⟨c, hc, rfl⟩ := List.mem_map.1 hn
    exact mem_map_addAll.2 (.inr (h.nodes c hc))
  rw [onto, Tables.afterGraph, hnodes, h.firsts_keys]

variable (hother : other.Orderly)

include hother

/-- The courses of the union are the records of all courses. -/
theorem courses_union : (acc.union other).courses = gathered (acc.courses ++ other.courses) := by
  have hgathered := foldl_addCourse_gathered acc.courses hother.named
  rwa [gathered_of_nodup h.keys] at hgathered

/-- In the union a course has the name that it has in the first accumulator, or else in the
second. -/
theorem firstName_union : firstName (acc.union other).courses =
    Tables.orName (firstName acc.courses) (firstName other.courses) := by
  have hown {acc : Accumulator} (h : acc.Orderly) :
      firstName acc.courses = nameFor acc.courses := by
    rw [← firstName_gathered, gathered_of_nodup h.keys]
  rw [h.courses_union hother, firstName_gathered, hown h, hown hother]
  exact funext fun key => nameFor_append acc.courses other.courses key

/-- The union is orderly. -/
theorem union : (acc.union other).Orderly := by
  have hcourses := h.courses_union hother
  constructor
  · rw [hcourses, map_key_gathered]
    exact nodup_firsts _
  · rw [hcourses]
    exact named_gathered (List.forall_mem_append.2 ⟨h.named, hother.named⟩)
  · intro c hc
    have hnode : c.nodeId ∈ (acc.union other).courses.map Course.nodeId := List.mem_map_of_mem hc
    have hnodes : (acc.union other).nodes = addAll Node.id acc.nodes other.nodes := rfl
    rw [hnodes, mem_map_addAll]
    refine (mem_map_nodeId_foldl_addCourse.1 hnode).imp ?_ ?_
    · intro hnode
      obtain ⟨d, hd, hnode⟩ := List.mem_map.1 hnode
      exact hnode ▸ h.nodes d hd
    · intro hnode
      obtain ⟨d, hd, hnode⟩ := List.mem_map.1 hnode
      exact hnode ▸ hother.nodes d hd

/-- The tables after the union is saved are those after both accumulators are. -/
theorem onto_union (t : Tables) : (acc.union other).onto t = other.onto (acc.onto t) := by
  have hnodes : addAll Node.id t.nodes (acc.union other).nodes =
      addAll Node.id (addAll Node.id t.nodes acc.nodes) other.nodes :=
    addAll_addAll Node.id t.nodes acc.nodes other.nodes
  have hrelations : addAll id t.relations (acc.union other).relations =
      addAll id (addAll id t.relations acc.relations) other.relations :=
    addAll_addAll id t.relations acc.relations other.relations
  rw [(h.union hother).onto_eq, hother.onto_eq, h.onto_eq, hnodes, hrelations, keys_union,
    h.firstName_union hother, h.naming.rowsAfter_rowsAfter hother.naming hother.keys]

/-- The union is admitted exactly if the second accumulator is after the first. -/
theorem admits_union (t : Tables) :
    Tables.Admits t.courses (firsts id ((acc.union other).courses.map Course.key)) ↔
      Tables.Admits t.courses (firsts id (acc.courses.map Course.key)) ∧
        Tables.Admits (acc.onto t).courses (firsts id (other.courses.map Course.key)) := by
  rw [(h.union hother).firsts_keys, h.firsts_keys, hother.firsts_keys, keys_union, h.onto_eq]
  exact Tables.admits_addAll hother.keys (firstName acc.courses)

end Orderly

/-! ## Saving -/

/-- A session after all that was collected is saved to it. -/
def saveTo (acc : Accumulator) (s : Session) : Session × Except ConstraintFault GraphSaved :=
  s.saveGraph acc.nodes acc.courses acc.relations

/-- An accumulator is saved exactly if its courses are admitted, and there is one session then. -/
theorem exists_saveTo_iff {acc : Accumulator} {s s' : Session} :
    (∃ counts, acc.saveTo s = (s', .ok counts)) ↔
      Tables.Admits s.working.courses (firsts id (acc.courses.map Course.key)) ∧
        s' = ⟨acc.onto s.working, acc.onto s.working⟩ := by
  constructor
  · rintro ⟨counts, h⟩
    obtain ⟨t, hsave, rfl⟩ := Session.saveGraph_eq_ok_iff.1 h
    obtain ⟨hadmits, rfl⟩ := Tables.exists_saveGraph_iff.1 ⟨counts, hsave⟩
    exact ⟨hadmits, rfl⟩
  · rintro ⟨hadmits, rfl⟩
    obtain ⟨counts, hsave⟩ := Tables.exists_saveGraph_iff.2 ⟨hadmits, rfl⟩
    exact ⟨counts, Session.saveGraph_eq_ok_iff.2 ⟨_, hsave, rfl⟩⟩

/-- Two orderly accumulators are saved one after the other exactly if their union is, and to the
same session. -/
theorem Orderly.saveTo_saveTo_iff {acc other : Accumulator} (h : acc.Orderly)
    (hother : other.Orderly) {s s' : Session} :
    (∃ between counts counts', acc.saveTo s = (between, .ok counts) ∧
        other.saveTo between = (s', .ok counts')) ↔
      ∃ counts, (acc.union other).saveTo s = (s', .ok counts) := by
  rw [exists_saveTo_iff, h.admits_union hother, h.onto_union hother]
  constructor
  · rintro ⟨between, counts, counts', hfirst, hsecond⟩
    obtain ⟨hadmits, rfl⟩ := exists_saveTo_iff.1 ⟨counts, hfirst⟩
    obtain ⟨hadmits', rfl⟩ := exists_saveTo_iff.1 ⟨counts', hsecond⟩
    exact ⟨⟨hadmits, hadmits'⟩, rfl⟩
  · rintro ⟨⟨hadmits, hadmits'⟩, rfl⟩
    obtain ⟨counts, hfirst⟩ := exists_saveTo_iff.2 ⟨hadmits, rfl⟩
    obtain ⟨counts', hsecond⟩ : ∃ counts',
        other.saveTo ⟨acc.onto s.working, acc.onto s.working⟩ = (_, .ok counts') :=
      exists_saveTo_iff.2 ⟨hadmits', rfl⟩
    exact ⟨_, counts, counts', hfirst, hsecond⟩

/-! ## Two runs -/

variable {tasks others : List Task}

/-- After a run over tasks no subject code holds a number sign, if this is so for the courses that
the tasks bind. -/
theorem subject_run (h : ∀ c, Task.bind c ∈ tasks → '#' ∉ c.subject.toList) :
    ∀ key ∈ (run {} (stepsOf tasks)).courses.map Course.key, '#' ∉ key.1.toList := by
  intro key hkey
  obtain ⟨c, hc, rfl⟩ := List.mem_map.1 hkey
  refine subject_run_of_brought (fun d hd => ?_) c hc
  obtain ⟨task, htask, hd⟩ := mem_flatMap_stepsOf.1 hd
  exact Task.subject_of_bound hd fun bound hbound => h bound (hbound ▸ htask)

/-- A run over tasks that bind no course with an empty name leaves an orderly accumulator. -/
theorem orderly_run (h : ∀ c, Task.bind c ∈ tasks → c.name ≠ some "") :
    (run {} (stepsOf tasks)).Orderly := by
  have hnamed : ∀ c ∈ (stepsOf tasks).flatMap Step.coursesOf, c.name ≠ some "" := by
    intro c hc
    obtain ⟨task, htask, hc⟩ := mem_flatMap_stepsOf.1 hc
    rcases Task.eq_bind_or_name_eq_none hc with rfl | hnone
    · exact h c htask
    · simp [hnone]
  constructor
  · rw [map_key_run]
    exact nodup_firsts _
  · rw [courses_run_eq hnamed]
    exact named_gathered hnamed
  · -- The node of a course is said by its key, which a task has brought, and its node with it.
    intro c hc
    obtain ⟨d, hd, hkey⟩ := exists_key_eq_run hc
    obtain ⟨task, htask, hd⟩ := mem_flatMap_stepsOf.1 hd
    obtain ⟨n, hn, hnode⟩ := List.mem_map.1 (Task.nodeId_mem hd)
    have hbrought : n ∈ (stepsOf tasks).flatMap Step.nodesOf :=
      mem_flatMap_stepsOf.2 ⟨task, htask, hn⟩
    rw [nodes_run, mem_map_addAll, ← Course.nodeId_eq_of_key_eq hkey, ← hnode]
    exact .inr (List.mem_map_of_mem hbrought)

/-- Two runs that bind no course with an empty name are saved one after the other exactly if their
union is, and to the same rows in the same order. Where the nodes of stored courses say their keys
and no subject code holds a number sign, they are saved both ways. -/
theorem saveTo_union (hnamed : ∀ c, Task.bind c ∈ tasks ++ others → c.name ≠ some "")
    (s : Session) :
    (∀ s', (∃ between counts counts', (run {} (stepsOf tasks)).saveTo s = (between, .ok counts) ∧
          (run {} (stepsOf others)).saveTo between = (s', .ok counts')) ↔
        ∃ counts, ((run {} (stepsOf tasks)).union (run {} (stepsOf others))).saveTo s =
          (s', .ok counts)) ∧
      (s.working.NodesSayKeys →
        (∀ c, Task.bind c ∈ tasks ++ others → '#' ∉ c.subject.toList) →
        ∃ between s' counts counts' countsUnion,
          (run {} (stepsOf tasks)).saveTo s = (between, .ok counts) ∧
            (run {} (stepsOf others)).saveTo between = (s', .ok counts') ∧
            ((run {} (stepsOf tasks)).union (run {} (stepsOf others))).saveTo s =
              (s', .ok countsUnion)) := by
  have hboth {P : Course → Prop} (h : ∀ c, Task.bind c ∈ tasks ++ others → P c) :
      (∀ c, Task.bind c ∈ tasks → P c) ∧ ∀ c, Task.bind c ∈ others → P c :=
    ⟨fun c hc => h c (List.mem_append_left _ hc), fun c hc => h c (List.mem_append_right _ hc)⟩
  have horderly := orderly_run (hboth hnamed).1
  have horderly' := orderly_run (hboth hnamed).2
  refine ⟨fun s' => horderly.saveTo_saveTo_iff horderly', fun hkeys hsubjects => ?_⟩
  -- Nothing is refused, since every course of the union has the key of a course of one of the runs.
  have hcourses : ∀ c ∈ ((run {} (stepsOf tasks)).union (run {} (stepsOf others))).courses,
      '#' ∉ c.subject.toList := by
    intro c hc
    have hkey : c.key ∈ ((run {} (stepsOf tasks)).union (run {} (stepsOf others))).courses.map
        Course.key := List.mem_map_of_mem hc
    rw [keys_union, mem_addAll_id] at hkey
    exact hkey.elim (subject_run (hboth hsubjects).1 c.key) (subject_run (hboth hsubjects).2 c.key)
  obtain ⟨-, countsUnion, hsave⟩ := hkeys.exists_saveGraph _ hcourses _
  have hunion := Session.saveGraph_eq_ok_iff.2 ⟨_, hsave, rfl⟩
  obtain ⟨between, counts, counts', hfirst, hsecond⟩ :=
    (horderly.saveTo_saveTo_iff horderly').2 ⟨countsUnion, hunion⟩
  exact ⟨between, _, counts, counts', countsUnion, hfirst, hsecond, hunion⟩

/-- The courses `M 1`, now with its name, and `M 2`. -/
def namedTasks : List Task :=
  [.bind { subject := "M", catalog := "1", name := some "Logic" },
    .bind { subject := "M", catalog := "2" }]

/-- The text `(A&B)|A` names no course. -/
theorem courses_nestedTasks :
    (run {} (stepsOf nestedTasks)).courses = [{ subject := "M", catalog := "1" }] := by
  obtain ⟨g, hg, hread⟩ :=
    (derivesAll_tokenize.1 Derivation.derivesAll_nested).exists_reading "&AB"
  have hnone : g.courses = [] := by
    refine List.eq_nil_iff_forall_not_mem.2 fun c hc => ?_
    obtain ⟨l, hl, hcourse⟩ := (hread.courses c).1 hc
    have hleaves : ∀ l ∈ Derivation.nested.leaves, l.course? = none := by decide +kernel
    rw [hleaves l hl] at hcourse
    exact Option.some_ne_none c hcourse.symm
  have hbrought : (stepsOf nestedTasks).flatMap Step.coursesOf =
      [{ subject := "M", catalog := "1" }] := by
    rw [stepsOf, nestedTasks, List.flatMap_cons, List.flatMap_singleton, List.flatMap_append,
      Task.steps, Task.steps, hg, flatMap_coursesOf_bindSteps]
    rw [flatMap_coursesOf_mergeSteps, hnone, List.append_nil]
  rw [courses_run, hbrought]
  rfl

/-- The name of `M 1` comes with the second run, and is there after both, and after their union. -/
theorem saveTo_union_namedTasks : ∃ between s counts counts' countsUnion,
    (run {} (stepsOf nestedTasks)).saveTo Session.unnamed = (between, .ok counts) ∧
      (run {} (stepsOf namedTasks)).saveTo between = (s, .ok counts') ∧
      ((run {} (stepsOf nestedTasks)).union (run {} (stepsOf namedTasks))).saveTo Session.unnamed =
        (s, .ok countsUnion) ∧
      between.working.courses.map CourseRow.name = [none] ∧
      s.working.courses.map CourseRow.name = [some "Logic", none] := by
  have hbound : ∀ c, Task.bind c ∈ nestedTasks ++ namedTasks →
      c.name ≠ some "" ∧ '#' ∉ c.subject.toList := by
    simp [nestedTasks, namedTasks]
  have hkeys : Session.unnamed.working.NodesSayKeys := ⟨by decide, by decide⟩
  obtain ⟨-, hsaved⟩ := saveTo_union (fun c hc => (hbound c hc).1) Session.unnamed
  obtain ⟨between, s, counts, counts', countsUnion, hfirst, hsecond, hunion⟩ :=
    hsaved hkeys fun c hc => (hbound c hc).2
  refine ⟨between, s, counts, counts', countsUnion, hfirst, hsecond, hunion, ?_, ?_⟩
  · obtain ⟨-, rfl⟩ := exists_saveTo_iff.1 ⟨counts, hfirst⟩
    rw [onto, Tables.afterGraph, courses_nestedTasks]
    decide +kernel
  · obtain ⟨-, rfl⟩ := exists_saveTo_iff.1 ⟨countsUnion, hunion⟩
    have hcourses : ((run {} (stepsOf nestedTasks)).union (run {} (stepsOf namedTasks))).courses =
        [{ subject := "M", catalog := "1", name := some "Logic" },
          { subject := "M", catalog := "2" }] := by
      change (run {} (stepsOf namedTasks)).courses.foldl addCourse
        (run {} (stepsOf nestedTasks)).courses = _
      rw [courses_nestedTasks]
      decide +kernel
    rw [onto, Tables.afterGraph, hcourses]
    decide +kernel

end Accumulator

end Requisite
