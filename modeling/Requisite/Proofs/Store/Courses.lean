import Mathlib.Tactic.MkIffOfInductiveProp
import Mathlib.Tactic.Tauto
import Requisite.Store.Save

/-!
# What saving courses leaves

Courses are saved one by one, and of a key that was seen in the batch nothing more is saved, so only
the first course of a key counts. A stored course takes its name if it has none; the others are
new, and their rows go to the end in the order of the batch. That is the whole of it: the rows after
the batch are `Tables.rowsAfter`, and the batch is refused exactly if the node of a new course
belongs to another course, stored before it or new as well (`Tables.Admits`). So what saving does is
said by an equation (`exists_saveCoursesAfter_iff`), whatever the store and the batch are.

Two batches that give no empty name leave what all their courses do, each with the first name for it
(`Tables.Naming.rowsAfter_rowsAfter`), and are admitted exactly if all these are
(`Tables.admits_addAll`).
-/

namespace Requisite

/-- The name that the first course with the key has, in a list of courses. -/
def firstName (cs : List Course) (key : String × String) : Option String :=
  (cs.find? fun c => c.key = key).bind Course.name

/-- The first of all courses gives the name for its key. -/
theorem firstName_cons_of_eq (c : Course) (cs : List Course) :
    firstName (c :: cs) c.key = c.name := by
  simp [firstName]

/-- For other keys it gives none. -/
theorem firstName_cons_of_ne {c : Course} {key : String × String} (h : c.key ≠ key)
    (cs : List Course) : firstName (c :: cs) key = firstName cs key := by
  simp [firstName, h]

/-- A key that no course has is given no name. -/
theorem firstName_eq_none {cs : List Course} {key : String × String}
    (h : key ∉ cs.map Course.key) : firstName cs key = none := by
  have hfind : cs.find? (fun c => c.key = key) = none := by
    refine List.find?_eq_none.2 fun c hc hkey => h ?_
    rw [← of_decide_eq_true hkey]
    exact List.mem_map_of_mem hc
  rw [firstName, hfind, Option.bind_none]

/-- The row that a course brings. -/
def Course.row (c : Course) : CourseRow :=
  { subject := c.subject, catalog := c.catalog, nodeId := c.nodeId, name := c.name }

/-- The keys of the courses that are not among those seen, each once, in order. -/
def unseenKeys (seen : List (String × String)) (cs : List Course) : List (String × String) :=
  (firsts id (cs.map Course.key)).filter fun key => key ∉ seen

/-- Where nothing was seen, these are all keys. -/
theorem unseenKeys_nil (cs : List Course) : unseenKeys [] cs = firsts id (cs.map Course.key) := by
  simp [unseenKeys]

/-- A course with a key that was seen adds nothing. -/
theorem unseenKeys_cons_of_mem {seen : List (String × String)} {c : Course} (h : c.key ∈ seen)
    (cs : List Course) : unseenKeys seen (c :: cs) = unseenKeys seen cs := by
  have hdropped : ¬ decide (c.key ∉ seen) = true := by simpa using h
  rw [unseenKeys, List.map_cons, firsts_cons, List.filter_cons, if_neg hdropped, List.filter_filter,
    unseenKeys]
  refine List.filter_congr fun key _ => ?_
  by_cases heq : key = c.key
  · simp [heq, h]
  · simp [heq]

/-- A course with another key adds it, and then the key has been seen. -/
theorem unseenKeys_cons_of_not_mem {seen : List (String × String)} {c : Course} (h : c.key ∉ seen)
    (cs : List Course) :
    unseenKeys seen (c :: cs) = c.key :: unseenKeys (c.key :: seen) cs := by
  have hkept : decide (c.key ∉ seen) = true := decide_eq_true h
  rw [unseenKeys, List.map_cons, firsts_cons, List.filter_cons, if_pos hkept, List.filter_filter,
    unseenKeys]
  simp [and_comm]

namespace Tables

variable {rows : List CourseRow} {keys : List (String × String)} {key : String × String}
  {name : String × String → Option String}

/-! ## Names -/

/-- A name changes nothing but the name of a course. -/
theorem nameCourse_eq (name : Option String) (d : CourseRow) :
    ∃ name', nameCourse name d = { d with name := name' } := by
  rw [nameCourse]
  split
  · exact ⟨name, rfl⟩
  · exact ⟨d.name, rfl⟩

/-- A name does not change the key of a stored course. -/
@[simp] theorem key_nameCourse (name : Option String) (d : CourseRow) :
    (nameCourse name d).key = d.key := by
  obtain ⟨name', hname⟩ := nameCourse_eq name d
  rw [hname]
  rfl

/-- A name does not change the node of a stored course. -/
@[simp] theorem nodeId_nameCourse (name : Option String) (d : CourseRow) :
    (nameCourse name d).nodeId = d.nodeId := by
  obtain ⟨name', hname⟩ := nameCourse_eq name d
  rw [hname]

/-- The stored course, with the name for its key if this is one of the keys. -/
def nameAmong (keys : List (String × String)) (name : String × String → Option String)
    (d : CourseRow) : CourseRow :=
  if d.key ∈ keys then nameCourse (name d.key) d else d

/-- It keeps its key. -/
@[simp] theorem key_nameAmong (d : CourseRow) : (nameAmong keys name d).key = d.key := by
  rw [nameAmong]
  split <;> simp

/-- It keeps its node. -/
@[simp] theorem nodeId_nameAmong (d : CourseRow) : (nameAmong keys name d).nodeId = d.nodeId := by
  rw [nameAmong]
  split <;> simp

/-- Where its key is not one of them, it stays as it is. -/
theorem nameAmong_of_not_mem {d : CourseRow} (h : d.key ∉ keys) : nameAmong keys name d = d :=
  if_neg h

/-- Naming the course of one key, and then those of the other keys, is naming those of all keys. -/
theorem nameAmong_nameCourse (h : key ∉ keys) (d : CourseRow) :
    nameAmong keys name (if d.key = key then nameCourse (name key) d else d) =
      nameAmong (key :: keys) name d := by
  by_cases hd : d.key = key
  · rw [if_pos hd, nameAmong_of_not_mem (by rwa [key_nameCourse, hd]), nameAmong, hd,
      if_pos List.mem_cons_self]
  · simp [nameAmong, hd]

/-! ## New courses -/

/-- Those of the keys that no row has. -/
def newKeys (rows : List CourseRow) (keys : List (String × String)) : List (String × String) :=
  keys.filter fun key => key ∉ rows.map CourseRow.key

/-- A stored key is not new. -/
theorem newKeys_cons_of_mem (h : key ∈ rows.map CourseRow.key) :
    newKeys rows (key :: keys) = newKeys rows keys :=
  List.filter_cons_of_neg (by simpa using h)

/-- A key that is not stored is new. -/
theorem newKeys_cons_of_not_mem (h : key ∉ rows.map CourseRow.key) :
    newKeys rows (key :: keys) = key :: newKeys rows keys :=
  List.filter_cons_of_pos (decide_eq_true h)

/-- The id of the node of the course with the key. -/
def nodeOfKey (key : String × String) : String :=
  courseNodeId key.1 key.2

/-- The row of a course that is new to the store. -/
def newRow (name : String × String → Option String) (key : String × String) : CourseRow :=
  { subject := key.1, catalog := key.2, nodeId := nodeOfKey key, name := name key }

/-- The row has the key of the course. -/
@[simp] theorem key_newRow (key : String × String) : (newRow name key).key = key :=
  rfl

/-- The row has the node of the course. -/
@[simp] theorem nodeId_newRow (key : String × String) :
    (newRow name key).nodeId = nodeOfKey key :=
  rfl

/-- Among the rows of courses that are new, each is found by its key. -/
theorem find?_map_newRow (h : keys.Nodup) (hkey : key ∈ keys) :
    (keys.map (newRow name)).find? (fun c => c.key = key) = some (newRow name key) := by
  have hkeys : ((keys.map (newRow name)).map CourseRow.key).Nodup := by
    rw [List.map_map]
    exact (List.map_id keys).symm ▸ h
  exact find?_of_mem hkeys (List.mem_map_of_mem hkey)

/-- The nodes of the new courses belong to no other courses, neither stored nor new. -/
@[mk_iff]
structure Admits (rows : List CourseRow) (keys : List (String × String)) : Prop where
  apart : ((newKeys rows keys).map nodeOfKey).Nodup
  free : ∀ key ∈ newKeys rows keys, nodeOfKey key ∉ rows.map CourseRow.nodeId

/-- The rows after courses with the keys are saved, each with the name for its key. -/
def rowsAfter (rows : List CourseRow) (keys : List (String × String))
    (name : String × String → Option String) : List CourseRow :=
  rows.map (nameAmong keys name) ++ (newKeys rows keys).map (newRow name)

/-- The keys after a batch are those before it and the new ones. -/
theorem map_key_rowsAfter : (rowsAfter rows keys name).map CourseRow.key =
    rows.map CourseRow.key ++ newKeys rows keys := by
  simp [rowsAfter, Function.comp_def]

/-- So the keys arrive one by one. -/
theorem map_key_rowsAfter_firsts : (rowsAfter rows (firsts id keys) name).map CourseRow.key =
    addAll id (rows.map CourseRow.key) keys := by
  rw [map_key_rowsAfter, addAll_eq_append]
  simp [newKeys]

/-- Every key of the batch is stored after it. -/
theorem mem_map_key_rowsAfter (h : key ∈ keys) :
    key ∈ (rowsAfter rows keys name).map CourseRow.key := by
  rw [map_key_rowsAfter, List.mem_append]
  by_cases hstored : key ∈ rows.map CourseRow.key
  · exact .inl hstored
  · exact .inr (List.mem_filter.2 ⟨h, decide_eq_true hstored⟩)

/-- The nodes of the courses are those before it and those of the new ones. -/
theorem map_nodeId_rowsAfter : (rowsAfter rows keys name).map CourseRow.nodeId =
    rows.map CourseRow.nodeId ++ (newKeys rows keys).map nodeOfKey := by
  simp [rowsAfter, Function.comp_def]

/-- A row after a batch is a row before it, by key and node, or that of a new course. -/
theorem cases_of_mem_rowsAfter {d : CourseRow} (hd : d ∈ rowsAfter rows keys name) :
    (∃ d₀ ∈ rows, d.key = d₀.key ∧ d.nodeId = d₀.nodeId) ∨
      ∃ key ∈ newKeys rows keys, d = newRow name key := by
  rw [rowsAfter, List.mem_append, List.mem_map, List.mem_map] at hd
  rcases hd with ⟨d₀, hd₀, rfl⟩ | ⟨key, hkey, rfl⟩
  · exact .inl ⟨d₀, hd₀, key_nameAmong d₀, nodeId_nameAmong d₀⟩
  · exact .inr ⟨key, hkey, rfl⟩

/-- The nodes of the courses stay apart, if the batch is admitted. -/
theorem Admits.nodup_nodeIds (h : Admits rows keys) (hrows : (rows.map CourseRow.nodeId).Nodup) :
    ((rowsAfter rows keys name).map CourseRow.nodeId).Nodup := by
  rw [map_nodeId_rowsAfter, List.nodup_append]
  refine ⟨hrows, h.apart, fun id hid id' hid' heq => ?_⟩
  obtain ⟨key, hkey, rfl⟩ := List.mem_map.1 hid'
  exact h.free key hkey (heq ▸ hid)

/-- Without keys nothing changes. -/
theorem rowsAfter_nil : rowsAfter rows [] name = rows := by
  have hsame : nameAmong [] name = id := funext fun d => nameAmong_of_not_mem List.not_mem_nil
  simp [rowsAfter, newKeys, hsame]

/-- Without keys nothing is refused. -/
theorem admits_nil : Admits rows [] := by
  constructor <;> simp [newKeys]

/-! ## One course after the other -/

/-- The rows after the stored course of a key is given a name. -/
def rename (rows : List CourseRow) (key : String × String) (name : Option String) :
    List CourseRow :=
  rows.map fun d => if d.key = key then nameCourse name d else d

/-- The keys stay. -/
@[simp] theorem map_key_rename (key : String × String) (name : Option String) :
    (rename rows key name).map CourseRow.key = rows.map CourseRow.key := by
  rw [rename, List.map_map]
  refine List.map_congr_left fun d _ => ?_
  rw [Function.comp_apply]
  split <;> simp

/-- The nodes stay. -/
@[simp] theorem map_nodeId_rename (key : String × String) (name : Option String) :
    (rename rows key name).map CourseRow.nodeId = rows.map CourseRow.nodeId := by
  rw [rename, List.map_map]
  refine List.map_congr_left fun d _ => ?_
  rw [Function.comp_apply]
  split <;> simp

/-- After a stored course takes its name, the other courses leave what all of them do. -/
theorem rowsAfter_rename (hkey : key ∈ rows.map CourseRow.key) (h : key ∉ keys) :
    rowsAfter (rename rows key (name key)) keys name = rowsAfter rows (key :: keys) name := by
  have hnew : newKeys (rename rows key (name key)) keys = newKeys rows (key :: keys) := by
    rw [newKeys_cons_of_mem hkey, newKeys, newKeys, map_key_rename]
  have hold : (rename rows key (name key)).map (nameAmong keys name) =
      rows.map (nameAmong (key :: keys) name) := by
    rw [rename, List.map_map]
    exact List.map_congr_left fun d _ => nameAmong_nameCourse h d
  rw [rowsAfter, hnew, hold, rowsAfter]

/-- A stored course does not matter to whether others are refused. -/
theorem admits_rename (hkey : key ∈ rows.map CourseRow.key) (given : Option String) :
    Admits (rename rows key given) keys ↔ Admits rows (key :: keys) := by
  have hnew : newKeys (rename rows key given) keys = newKeys rows (key :: keys) := by
    rw [newKeys_cons_of_mem hkey, newKeys, newKeys, map_key_rename]
  simp only [admits_iff, hnew, map_nodeId_rename]

/-- A key that is not among others makes none of them known. -/
theorem newKeys_append_newRow (h : key ∉ keys) :
    newKeys (rows ++ [newRow name key]) keys = newKeys rows keys := by
  refine List.filter_congr fun key' hkey' => ?_
  have hne : key' ≠ key := fun heq => h (heq ▸ hkey')
  simp [hne]

/-- After a new course is inserted, the other courses leave what all of them do. -/
theorem rowsAfter_append_newRow (hkey : key ∉ rows.map CourseRow.key) (h : key ∉ keys) :
    rowsAfter (rows ++ [newRow name key]) keys name = rowsAfter rows (key :: keys) name := by
  have hold : rows.map (nameAmong (key :: keys) name) = rows.map (nameAmong keys name) := by
    refine List.map_congr_left fun d hd => ?_
    have hne : d.key ≠ key := fun heq => hkey (heq ▸ List.mem_map_of_mem hd)
    simp [nameAmong, hne]
  have hlast : nameAmong keys name (newRow name key) = newRow name key := nameAmong_of_not_mem h
  rw [rowsAfter, rowsAfter, newKeys_append_newRow h, newKeys_cons_of_not_mem hkey, hold,
    List.map_append, List.map_singleton, hlast, List.append_assoc]
  rfl

/-- Courses are admitted exactly if the first new one is, and the others are after it. -/
theorem admits_append_newRow (name : String × String → Option String)
    (hkey : key ∉ rows.map CourseRow.key) (h : key ∉ keys) :
    nodeOfKey key ∉ rows.map CourseRow.nodeId ∧ Admits (rows ++ [newRow name key]) keys ↔
      Admits rows (key :: keys) := by
  rw [admits_iff, admits_iff, newKeys_append_newRow h, newKeys_cons_of_not_mem hkey]
  simp only [List.map_cons, List.nodup_cons, List.forall_mem_cons, List.map_append, List.mem_append,
    List.map_nil, List.mem_singleton, nodeId_newRow, List.mem_map (f := nodeOfKey)]
  grind

/-! ## A batch -/

/-- A course is found exactly when its key is stored. -/
theorem isSome_course?_iff {t : Tables} :
    (t.course? key).isSome ↔ key ∈ t.courses.map CourseRow.key := by
  rw [course?, List.find?_isSome, List.mem_map]
  simp

/-- A course is inserted unless its node belongs to a stored one. -/
theorem insertCourse_eq (t : Tables) (row : CourseRow) : t.insertCourse row =
    if row.nodeId ∈ t.courses.map CourseRow.nodeId then .error .sharedCourseNode
    else .ok { t with courses := t.courses ++ [row] } := by
  have hfound : (t.courseOfNode? row.nodeId).isSome ↔
      row.nodeId ∈ t.courses.map CourseRow.nodeId := by
    rw [courseOfNode?, List.find?_isSome, List.mem_map]
    simp
  simp only [insertCourse, hfound]

/-- Courses are saved exactly if they are admitted, and then the rows are those that come after
them. -/
theorem exists_saveCoursesAfter_iff {seen : List (String × String)} {cs : List Course}
    (hname : ∀ key ∉ seen, name key = firstName cs key) (saved : Saved) {t t' : Tables} :
    (∃ saved', saveCoursesAfter seen saved t cs = .ok (t', saved')) ↔
      Admits t.courses (unseenKeys seen cs) ∧
        t' = { t with courses := rowsAfter t.courses (unseenKeys seen cs) name } := by
  -- Every course changes what the later ones find, so the induction is for any tables.
  induction cs generalizing seen saved t with
  | nil =>
    have hnone : unseenKeys seen [] = [] := rfl
    rw [hnone, rowsAfter_nil, saveCoursesAfter]
    simp [admits_nil, eq_comm]
  | cons c cs ih =>
    rw [saveCoursesAfter]
    by_cases hc : c.key ∈ seen
    · -- Nothing is saved, and for no key that is left the name comes from this course.
      have hrest : ∀ key ∉ seen, name key = firstName cs key := by
        intro key hkey
        rw [hname key hkey, firstName_cons_of_ne fun heq : c.key = key => hkey (heq ▸ hc)]
      rw [if_pos (List.contains_iff_mem.2 hc), unseenKeys_cons_of_mem hc]
      exact ih hrest _
    have hrest : ∀ key ∉ c.key :: seen, name key = firstName cs key := by
      intro key hkey
      obtain ⟨hne, hkey⟩ := not_or.1 (mt List.mem_cons.2 hkey)
      rw [hname key hkey, firstName_cons_of_ne (Ne.symm hne)]
    have hown : c.name = name c.key := by rw [hname c.key hc, firstName_cons_of_eq]
    have honce : c.key ∉ unseenKeys (c.key :: seen) cs := by simp [unseenKeys]
    rw [if_neg (mt List.contains_iff_mem.1 hc), unseenKeys_cons_of_not_mem hc]
    by_cases hkey : c.key ∈ t.courses.map CourseRow.key
    · rw [if_pos (isSome_course?_iff.2 hkey), hown, ← rowsAfter_rename hkey honce,
        ← admits_rename hkey (name c.key)]
      exact ih hrest _
    · rw [if_neg (mt isSome_course?_iff.1 hkey), ← rowsAfter_append_newRow hkey honce,
        ← admits_append_newRow name hkey honce]
      have hrow : (⟨c.subject, c.catalog, c.nodeId, c.name, none, none, none⟩ : CourseRow) =
          newRow name c.key := by
        rw [hown]
        rfl
      dsimp only
      rw [hrow, insertCourse_eq, nodeId_newRow]
      by_cases hnode : nodeOfKey c.key ∈ t.courses.map CourseRow.nodeId
      · -- The course is refused, and so is the batch.
        rw [if_pos hnode]
        simp [hnode, bind, Except.bind]
      · rw [if_neg hnode, and_iff_right hnode]
        exact ih hrest _

/-- As many courses are inserted as there are rows more. -/
theorem inserted_saveCoursesAfter {seen : List (String × String)} {cs : List Course}
    {saved saved' : Saved} {t t' : Tables}
    (h : saveCoursesAfter seen saved t cs = .ok (t', saved')) :
    saved'.inserted + t.courses.length = saved.inserted + t'.courses.length := by
  induction cs generalizing seen saved t with
  | nil =>
    rw [saveCoursesAfter] at h
    cases h
    rfl
  | cons c cs ih =>
    rw [saveCoursesAfter] at h
    by_cases hc : seen.contains c.key
    · rw [if_pos hc] at h
      simpa using ih h
    rw [if_neg hc] at h
    by_cases hkey : (t.course? c.key).isSome
    · rw [if_pos hkey] at h
      simpa [updateCourse] using ih h
    rw [if_neg hkey] at h
    dsimp only at h
    rw [insertCourse_eq] at h
    split at h
    · cases h
    · have hrest := ih h
      simp only [List.length_append, List.length_singleton] at hrest
      omega

/-! ## Two batches -/

section

variable {keys' : List (String × String)} {name' : String × String → Option String}

/-- A name that is not empty fills in where there is none. -/
theorem nameCourse_eq_or {name : Option String} (h : name ≠ some "") (d : CourseRow) :
    nameCourse name d = { d with name := d.name.or name } := by
  cases hname : d.name with
  | none =>
    rw [nameCourse, if_pos ⟨hname, h⟩, Option.none_or]
  | some n =>
    rw [nameCourse, if_neg (by simp [hname]), Option.some_or, ← hname]

/-- The names are names for the keys: none is empty, and other keys have none. -/
structure Naming (keys : List (String × String)) (name : String × String → Option String) :
    Prop where
  named : ∀ key, name key ≠ some ""
  keyed : ∀ key, key ∉ keys → name key = none

/-- The names of the first, and those of the second where the first have none. -/
def orName (name name' : String × String → Option String) (key : String × String) :
    Option String :=
  (name key).or (name' key)

/-- Such names fill in where there is none, whatever the course. -/
theorem Naming.nameAmong_eq (h : Naming keys name) (d : CourseRow) :
    nameAmong keys name d = { d with name := d.name.or (name d.key) } := by
  by_cases hkey : d.key ∈ keys
  · rw [nameAmong, if_pos hkey, nameCourse_eq_or (h.named d.key)]
  · rw [nameAmong_of_not_mem hkey, h.keyed d.key hkey, Option.or_none]

/-- Names for some keys, and others where there is none, are names for all these keys. -/
theorem Naming.or (h : Naming keys name) (h' : Naming keys' name') :
    Naming (addAll id keys keys') (orName name name') := by
  constructor
  · intro key
    rw [orName]
    cases hname : name key with
    | none => exact h'.named key
    | some n =>
      rw [Option.some_or, ← hname]
      exact h.named key
  · intro key hkey
    obtain ⟨hfirst, hsecond⟩ := not_or.1 (mt mem_addAll_id.2 hkey)
    rw [orName, h.keyed key hfirst, h'.keyed key hsecond]
    rfl

/-- The new ones of two lots of keys are those of the first, and then those that are still new after
these courses are saved. -/
theorem newKeys_addAll (h : keys'.Nodup) (name : String × String → Option String) :
    newKeys rows (addAll id keys keys') =
      newKeys rows keys ++ newKeys (rowsAfter rows keys name) keys' := by
  have hfirsts : firsts id keys' = keys' := firsts_of_nodup (by rwa [List.map_id])
  rw [addAll_eq_append, hfirsts, newKeys, newKeys, newKeys, List.filter_append, List.filter_filter,
    map_key_rowsAfter]
  congr 1
  refine List.filter_congr fun key _ => ?_
  rw [List.map_id, newKeys]
  simp only [id_eq, List.mem_append, List.mem_filter, ← Bool.decide_and, decide_eq_decide]
  simp only [decide_eq_true_iff]
  tauto

/-- Two batches are admitted one after the other exactly if all their courses are. -/
theorem admits_addAll (h : keys'.Nodup) (name : String × String → Option String) :
    Admits rows (addAll id keys keys') ↔
      Admits rows keys ∧ Admits (rowsAfter rows keys name) keys' := by
  rw [admits_iff, admits_iff, admits_iff, newKeys_addAll h name, map_nodeId_rowsAfter,
    List.map_append, List.nodup_append, List.forall_mem_append]
  -- A node of the second batch may belong neither to a stored course nor to one of the first batch,
  -- and after the first batch that is one condition.
  constructor
  · rintro ⟨⟨hapart, hapart', hdistinct⟩, hfree, hfree'⟩
    refine ⟨⟨hapart, hfree⟩, hapart', fun key hkey hnode => ?_⟩
    rcases List.mem_append.1 hnode with hnode | hnode
    · exact hfree' key hkey hnode
    · exact hdistinct _ hnode _ (List.mem_map_of_mem hkey) rfl
  · rintro ⟨⟨hapart, hfree⟩, hapart', hfree'⟩
    refine ⟨⟨hapart, hapart', fun id hid id' hid' heq => ?_⟩, hfree, fun key hkey hnode => ?_⟩
    · obtain ⟨key, hkey, rfl⟩ := List.mem_map.1 hid'
      exact hfree' key hkey (List.mem_append_right _ (heq ▸ hid))
    · exact hfree' key hkey (List.mem_append_left _ hnode)

/-- The rows after two batches are those after all their courses, each with the first name for
it. -/
theorem Naming.rowsAfter_rowsAfter (hname : Naming keys name) (hname' : Naming keys' name')
    (h : keys'.Nodup) : rowsAfter (rowsAfter rows keys name) keys' name' =
      rowsAfter rows (addAll id keys keys') (orName name name') := by
  have hold (d : CourseRow) : nameAmong keys' name' (nameAmong keys name d) =
      nameAmong (addAll id keys keys') (orName name name') d := by
    rw [(hname.or hname').nameAmong_eq, hname'.nameAmong_eq, key_nameAmong, hname.nameAmong_eq,
      Option.or_assoc, orName]
  have hfirst (key : String × String) : nameAmong keys' name' (newRow name key) =
      newRow (orName name name') key := by
    rw [hname'.nameAmong_eq]
    rfl
  have hsecond : ∀ key ∈ newKeys (rowsAfter rows keys name) keys',
      newRow name' key = newRow (orName name name') key := by
    intro key hkey
    -- A key of the first batch is stored after it, so it is not new.
    have hother : key ∉ keys := fun hmem =>
      of_decide_eq_true (List.mem_filter.1 hkey).2 (mem_map_key_rowsAfter hmem)
    rw [newRow, newRow, orName, hname.keyed key hother, Option.none_or]
  have hknown : (rowsAfter rows keys name).map (nameAmong keys' name') =
      rows.map (nameAmong (addAll id keys keys') (orName name name')) ++
        (newKeys rows keys).map (newRow (orName name name')) := by
    rw [rowsAfter, List.map_append, List.map_map, List.map_map]
    exact congrArg₂ _ (List.map_congr_left fun d _ => hold d)
      (List.map_congr_left fun key _ => hfirst key)
  calc rowsAfter (rowsAfter rows keys name) keys' name'
      = (rowsAfter rows keys name).map (nameAmong keys' name') ++
          (newKeys (rowsAfter rows keys name) keys').map (newRow name') := rfl
    _ = rows.map (nameAmong (addAll id keys keys') (orName name name')) ++
          ((newKeys rows keys).map (newRow (orName name name')) ++
            (newKeys (rowsAfter rows keys name) keys').map (newRow (orName name name'))) := by
      rw [hknown, List.map_congr_left hsecond, List.append_assoc]
    _ = rowsAfter rows (addAll id keys keys') (orName name name') := by
      rw [← List.map_append, ← newKeys_addAll h name, rowsAfter]

end

end Tables

end Requisite
