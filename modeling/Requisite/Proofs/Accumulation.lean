import Requisite.Accumulator
import Requisite.Proofs.Store.Saving

/-!
# What a run of steps leaves

An accumulator after a run holds what the steps brought: nodes by their ids, courses by their keys
and relations by all that they hold (`nodes_run`, `map_key_run`, `relations_run`). Which of two
records of one id stays depends on the order of the steps, and so does a course's name, but the ids,
the keys and the relations do not. Where no name is empty, a course has the first name that is given
for its key (`courses_run_eq`).

`Tables.Holds` says the same of the tables that such a run is saved to, for which
`Accumulator.exists_saved_run` needs only that no subject code holds a number sign.
-/

namespace Requisite

/-- Courses with one key have one node. -/
theorem Course.nodeId_eq_of_key_eq {c d : Course} (h : c.key = d.key) : c.nodeId = d.nodeId := by
  obtain ⟨hsubject, hcatalog⟩ := Prod.mk.inj h
  rw [Course.nodeId, Course.nodeId, hsubject, hcatalog]

namespace Accumulator

/-! ## What a step brings -/

/-- The nodes that arrive with a step. -/
def Step.nodesOf : Step → List Node
  | .nodes ns => ns
  | _ => []

/-- The courses that arrive with a step. -/
def Step.coursesOf : Step → List Course
  | .courses cs => cs
  | _ => []

/-- The relations that arrive with a step. -/
def Step.relationsOf : Step → List Relation
  | .relations rs => rs
  | _ => []

/-- Recording a course brings its node. -/
theorem flatMap_nodesOf_bindSteps (c : Course) :
    (bindSteps c).flatMap Step.nodesOf = [⟨c.nodeId, .value⟩] :=
  rfl

/-- Recording a course brings the course. -/
theorem flatMap_coursesOf_bindSteps (c : Course) :
    (bindSteps c).flatMap Step.coursesOf = [c] :=
  rfl

/-- Recording a graph brings its nodes. -/
theorem flatMap_nodesOf_mergeSteps (g : Graph) :
    (mergeSteps g).flatMap Step.nodesOf = g.nodes := by
  simp [mergeSteps, Step.nodesOf]

/-- Recording a graph brings the courses that it names. -/
theorem flatMap_coursesOf_mergeSteps (g : Graph) :
    (mergeSteps g).flatMap Step.coursesOf = g.courses := by
  simp [mergeSteps, Step.coursesOf]

/-- Recording a graph brings its relations. -/
theorem flatMap_relationsOf_mergeSteps (g : Graph) :
    (mergeSteps g).flatMap Step.relationsOf = g.relations := by
  simp [mergeSteps, Step.relationsOf]

/-- A name does not change the key of a course. -/
theorem key_nameCourse (name : Option String) (c : Course) : (nameCourse name c).key = c.key := by
  rw [nameCourse]
  split
  · rfl
  · rfl

/-- A course with a known key changes nothing but the name there. -/
theorem addCourse_of_mem {cs : List Course} {c : Course} (h : c.key ∈ cs.map Course.key) :
    addCourse cs c = cs.map fun d => if d.key = c.key then nameCourse c.name d else d := by
  obtain ⟨d, hd, hkey⟩ := List.mem_map.1 h
  exact if_pos (List.any_eq_true.2 ⟨d, hd, decide_eq_true hkey⟩)

/-- A course with a new key goes to the end. -/
theorem addCourse_of_not_mem {cs : List Course} {c : Course} (h : c.key ∉ cs.map Course.key) :
    addCourse cs c = cs ++ [c] := by
  refine if_neg fun hany => h ?_
  obtain ⟨d, hd, hkey⟩ := List.any_eq_true.1 hany
  exact List.mem_map.2 ⟨d, hd, of_decide_eq_true hkey⟩

/-- A course arrives by its key. -/
theorem map_key_addCourse (cs : List Course) (c : Course) :
    (addCourse cs c).map Course.key = addNew id (cs.map Course.key) c.key := by
  by_cases hc : c.key ∈ cs.map Course.key
  · rw [addCourse_of_mem hc, addNew_id_of_mem hc, List.map_map]
    refine List.map_congr_left fun d _ => ?_
    rw [Function.comp_apply]
    split
    · exact key_nameCourse c.name d
    · rfl
  · rw [addCourse_of_not_mem hc, addNew_id_of_not_mem hc, List.map_append]
    rfl

/-- Courses arrive by their keys. -/
theorem map_key_foldl_addCourse (cs ds : List Course) :
    (ds.foldl addCourse cs).map Course.key = addAll id (cs.map Course.key) (ds.map Course.key) := by
  induction ds generalizing cs with
  | nil => rfl
  | cons d ds ih =>
    rw [List.foldl_cons, ih, map_key_addCourse]
    rfl

/-- The key of a course says its node. -/
theorem map_nodeId (cs : List Course) :
    cs.map Course.nodeId = (cs.map Course.key).map fun key => courseNodeId key.1 key.2 := by
  rw [List.map_map]
  rfl

/-- So courses arrive with their nodes. -/
theorem mem_map_nodeId_foldl_addCourse {cs ds : List Course} {id : String} :
    id ∈ (ds.foldl addCourse cs).map Course.nodeId ↔
      id ∈ cs.map Course.nodeId ∨ id ∈ ds.map Course.nodeId := by
  rw [map_nodeId, map_nodeId, map_nodeId, map_key_foldl_addCourse]
  simp only [List.mem_map, mem_addAll_id, or_and_right, exists_or]

/-! ## What a run brings -/

variable (acc : Accumulator) (steps : List Step)

/-- The nodes of a run arrive by their ids. -/
theorem nodes_run :
    (acc.run steps).nodes = addAll Node.id acc.nodes (steps.flatMap Step.nodesOf) := by
  induction steps generalizing acc with
  | nil => rfl
  | cons step steps ih =>
    have hstep : (acc.apply step).nodes = addAll Node.id acc.nodes step.nodesOf := by
      cases step <;> rfl
    rw [List.flatMap_cons, addAll_append, ← hstep]
    exact ih (acc.apply step)

/-- The relations of a run arrive by all that they hold. -/
theorem relations_run :
    (acc.run steps).relations = addAll id acc.relations (steps.flatMap Step.relationsOf) := by
  induction steps generalizing acc with
  | nil => rfl
  | cons step steps ih =>
    have hstep : (acc.apply step).relations = addAll id acc.relations step.relationsOf := by
      cases step <;> rfl
    rw [List.flatMap_cons, addAll_append, ← hstep]
    exact ih (acc.apply step)

/-- The courses of a run arrive one by one. -/
theorem courses_run :
    (acc.run steps).courses = (steps.flatMap Step.coursesOf).foldl addCourse acc.courses := by
  induction steps generalizing acc with
  | nil => rfl
  | cons step steps ih =>
    have hstep : (acc.apply step).courses = step.coursesOf.foldl addCourse acc.courses := by
      cases step <;> rfl
    rw [List.flatMap_cons, List.foldl_append, ← hstep]
    exact ih (acc.apply step)

/-- The courses of a run arrive by their keys. -/
theorem map_key_run :
    (acc.run steps).courses.map Course.key =
      addAll id (acc.courses.map Course.key) ((steps.flatMap Step.coursesOf).map Course.key) := by
  rw [courses_run, map_key_foldl_addCourse]

/-- A course after a run from nothing has the key of one that the steps brought. -/
theorem exists_key_eq_run {steps : List Step} {c : Course} (hc : c ∈ (run {} steps).courses) :
    ∃ d ∈ steps.flatMap Step.coursesOf, d.key = c.key := by
  have hkey : c.key ∈ (run {} steps).courses.map Course.key := List.mem_map_of_mem hc
  rw [map_key_run] at hkey
  exact List.mem_map.1 (mem_firsts_id.1 hkey)

/-- No subject code holds a number sign after it, if none does that the steps brought. -/
theorem subject_run_of_brought {steps : List Step}
    (h : ∀ c ∈ steps.flatMap Step.coursesOf, '#' ∉ c.subject.toList) :
    ∀ c ∈ (run {} steps).courses, '#' ∉ c.subject.toList := by
  intro c hc
  obtain ⟨d, hd, hkey⟩ := exists_key_eq_run hc
  have hsubject : d.subject = c.subject := congrArg Prod.fst hkey
  rw [← hsubject]
  exact h d hd

/-! ## Names -/

/-- The name that some courses give a key: the first name of a course with the key. -/
def nameFor (cs : List Course) (key : String × String) : Option String :=
  cs.findSome? fun c => if c.key = key then c.name else none

/-- The course with the key and the name that some courses give it. -/
def courseFor (cs : List Course) (key : String × String) : Course where
  subject := key.1
  catalog := key.2
  name := nameFor cs key

/-- One record for each key that some courses have, with the first name that they give it. -/
def gathered (cs : List Course) : List Course :=
  (firsts id (cs.map Course.key)).map (courseFor cs)

/-- The record for a key has that key. -/
theorem key_courseFor (cs : List Course) (key : String × String) : (courseFor cs key).key = key :=
  rfl

/-- The keys of the records are those of the courses. -/
theorem map_key_gathered (cs : List Course) :
    (gathered cs).map Course.key = firsts id (cs.map Course.key) := by
  rw [gathered, List.map_map]
  exact List.map_id _

/-- More courses give their name, where those before them gave none. -/
theorem nameFor_append (cs ds : List Course) (key : String × String) :
    nameFor (cs ++ ds) key = (nameFor cs key).or (nameFor ds key) :=
  List.findSome?_append

/-- A single course gives its own name to its own key. -/
theorem nameFor_singleton (c : Course) (key : String × String) :
    nameFor [c] key = if c.key = key then c.name else none :=
  List.findSome?_singleton

/-- A key that no course has is given no name. -/
theorem nameFor_eq_none {cs : List Course} {key : String × String}
    (h : key ∉ cs.map Course.key) : nameFor cs key = none := by
  refine List.findSome?_eq_none_iff.2 fun c hc => if_neg fun hkey => h ?_
  exact hkey ▸ List.mem_map_of_mem hc

/-- Giving a name that is not empty fills in the name. -/
theorem nameCourse_eq {name : Option String} (h : name ≠ some "") (c : Course) :
    nameCourse name c = { c with name := c.name.or name } := by
  obtain ⟨subject, catalog, known⟩ := c
  cases known with
  | none => exact if_pos ⟨rfl, h⟩
  | some n => exact if_neg fun hnone => Option.some_ne_none n hnone.1

/-- When one more course arrives at the records of others, its record is among them. -/
theorem addCourse_gathered (cs : List Course) {c : Course} (h : c.name ≠ some "") :
    addCourse (gathered cs) c = gathered (cs ++ [c]) := by
  have hother (key : String × String) (hkey : key ≠ c.key) :
      courseFor (cs ++ [c]) key = courseFor cs key := by
    rw [courseFor, nameFor_append, nameFor_singleton, if_neg hkey.symm, Option.or_none, courseFor]
  have hafter : gathered (cs ++ [c]) =
      (addNew id (firsts id (cs.map Course.key)) c.key).map (courseFor (cs ++ [c])) := by
    rw [gathered, List.map_append, List.map_singleton, firsts_append_singleton]
  by_cases hc : c.key ∈ firsts id (cs.map Course.key)
  · -- The record of the key gets the name, if it lacks one, and the others stay.
    rw [addCourse_of_mem (map_key_gathered cs ▸ hc), hafter, addNew_id_of_mem hc, gathered,
      List.map_map]
    refine List.map_congr_left fun key _ => ?_
    by_cases hkey : key = c.key
    · rw [Function.comp_apply, key_courseFor, if_pos hkey, nameCourse_eq h, courseFor, courseFor,
        nameFor_append, nameFor_singleton, if_pos hkey.symm]
    · rw [Function.comp_apply, key_courseFor, if_neg hkey, hother key hkey]
  · -- The key is new, so no course before has given a name for it.
    have hnone : nameFor cs c.key = none := nameFor_eq_none fun hkey => hc (mem_firsts_id.2 hkey)
    have hlast : courseFor (cs ++ [c]) c.key = c := by
      rw [courseFor, nameFor_append, nameFor_singleton, hnone, if_pos rfl]
      rfl
    have hbefore : (firsts id (cs.map Course.key)).map (courseFor (cs ++ [c])) = gathered cs :=
      List.map_congr_left fun key hkey => hother key fun heq => hc (heq ▸ hkey)
    rw [addCourse_of_not_mem (map_key_gathered cs ▸ hc), hafter, addNew_id_of_not_mem hc,
      List.map_append, List.map_singleton, hlast, hbefore]

/-- Courses that arrive one by one leave their records beside those of others. -/
theorem foldl_addCourse_gathered (cs : List Course) {ds : List Course}
    (h : ∀ d ∈ ds, d.name ≠ some "") : ds.foldl addCourse (gathered cs) = gathered (cs ++ ds) := by
  induction ds generalizing cs with
  | nil => rw [List.foldl_nil, List.append_nil]
  | cons d ds ih =>
    obtain ⟨hd, hds⟩ := List.forall_mem_cons.1 h
    rw [List.foldl_cons, addCourse_gathered cs hd, ih (cs ++ [d]) hds, List.append_assoc,
      List.singleton_append]

/-- Where no name is empty, a run leaves one record for each key, with the first name that is given
for it. -/
theorem courses_run_eq {steps : List Step}
    (h : ∀ c ∈ steps.flatMap Step.coursesOf, c.name ≠ some "") :
    (run {} steps).courses = gathered (steps.flatMap Step.coursesOf) := by
  rw [courses_run]
  exact foldl_addCourse_gathered [] h

end Accumulator

/-! ## Saving a run -/

open Accumulator (Step)

/-- The tables hold what the steps bring, and nothing else. -/
structure Tables.Holds (t : Tables) (steps : List Step) : Prop where
  /-- The nodes of courses say their keys. -/
  keyed : t.NodesSayKeys
  /-- No two courses share a key. -/
  keys_apart : (t.courses.map CourseRow.key).Nodup
  /-- The nodes are those that arrived, and those of the courses. -/
  nodes : ∀ id, id ∈ t.nodes.map Node.id ↔
    id ∈ (steps.flatMap Step.nodesOf).map Node.id ∨
      id ∈ (steps.flatMap Step.coursesOf).map Course.nodeId
  /-- The courses are those that arrived. -/
  courses : ∀ key, key ∈ t.courses.map CourseRow.key ↔
    key ∈ (steps.flatMap Step.coursesOf).map Course.key
  /-- The relations are those that arrived. -/
  relations : ∀ r, r ∈ t.relations ↔ r ∈ steps.flatMap Step.relationsOf

/-- Tables that hold what some steps bring hold what the same steps bring in another order. -/
theorem Tables.Holds.perm {t : Tables} {steps steps' : List Step} (h : t.Holds steps)
    (hperm : steps.Perm steps') : t.Holds steps' where
  keyed := h.keyed
  keys_apart := h.keys_apart
  nodes id := by
    rw [h.nodes, ((hperm.flatMap_right _).map _).mem_iff, ((hperm.flatMap_right _).map _).mem_iff]
  courses key := by rw [h.courses, ((hperm.flatMap_right _).map _).mem_iff]
  relations r := by rw [h.relations, (hperm.flatMap_right _).mem_iff]

/-- An empty store after all that was collected is saved to it. -/
def Accumulator.saved (acc : Accumulator) : Session × Except ConstraintFault GraphSaved :=
  Session.saveGraph {} acc.nodes acc.courses acc.relations

/-- A run from nothing is saved to an empty store, and lasts there. -/
theorem Accumulator.exists_saved_run {steps : List Step}
    (hsubjects : ∀ c ∈ steps.flatMap Step.coursesOf, '#' ∉ c.subject.toList) :
    ∃ t counts, t.Holds steps ∧
      (run {} steps).saved = ({ committed := t, working := t }, .ok counts) := by
  have hnodes (id : String) : id ∈ (run {} steps).nodes.map Node.id ↔
      id ∈ (steps.flatMap Step.nodesOf).map Node.id := by
    rw [nodes_run]
    exact mem_map_firsts
  have hkeys (key : String × String) : key ∈ (run {} steps).courses.map Course.key ↔
      key ∈ (steps.flatMap Step.coursesOf).map Course.key := by
    rw [map_key_run]
    exact mem_firsts_id
  have hrelations (r : Relation) : r ∈ (run {} steps).relations ↔
      r ∈ steps.flatMap Step.relationsOf := by
    rw [relations_run]
    exact mem_firsts_id
  have hcourses := subject_run_of_brought hsubjects
  -- The key of a course says its node, so the nodes follow from the keys.
  have hcourseNodes (id : String) : id ∈ (run {} steps).courses.map Course.nodeId ↔
      id ∈ (steps.flatMap Step.coursesOf).map Course.nodeId := by
    rw [map_nodeId, map_nodeId, List.mem_map, List.mem_map]
    exact exists_congr fun key => and_congr_left' (hkeys key)
  have hempty : ({} : Tables).NodesSayKeys := ⟨by simp, by simp⟩
  obtain ⟨hkeyed, counts, hsave⟩ :=
    hempty.exists_saveGraph (run {} steps).nodes hcourses (run {} steps).relations
  refine ⟨_, counts, ?_, Session.saveGraph_eq_ok_iff.2 ⟨_, hsave, rfl⟩⟩
  constructor
  · exact hkeyed
  · rw [Tables.map_key_afterGraph]
    exact nodup_firsts _
  · intro id
    rw [Tables.afterGraph, mem_map_addAll, List.map_map, ← hnodes, ← hcourseNodes]
    exact or_congr_left (@mem_map_firsts Node String _ Node.id _ _)
  · intro key
    rw [Tables.map_key_afterGraph, ← hkeys]
    exact mem_firsts_id
  · intro r
    rw [← hrelations]
    exact mem_firsts_id

end Requisite
