import Requisite.Proofs.Runs.Union

/-!
# Two upserts of courses

The accumulator and the store both take in the courses that they lack and fill in missing names, and
differ in what they do with repeats. The accumulator looks at every record. The store looks, in each
batch, only at the first record of a key. So a course has the first name of all in the accumulator
(`Accumulator.nameFor`), and in the store the first name that stands in the first record of some
batch (`firstNames`), whatever the batches are (`Session.saveBatches_eq_ok_iff`).

Where no batch repeats a key, both come to the same rows. Where a batch does, the name of a course
is passed over if it comes late: the two agree on just those courses of a batch whose first record
has a name, or none of whose records has one (`Accumulator.courses_upserted`).
-/

namespace Requisite

open Accumulator

/-! ## Names -/

/-- The name that batches of courses give a key, where of each batch the first course with the key
counts. -/
def firstNames (batches : List (List Course)) (key : String × String) : Option String :=
  batches.findSome? fun cs => firstName cs key

/-- The first batch gives the name, or else the others. -/
theorem firstNames_cons (cs : List Course) (batches : List (List Course)) :
    firstNames (cs :: batches) = Tables.orName (firstName cs) (firstNames batches) := by
  funext key
  rw [firstNames, List.findSome?_cons, Tables.orName, firstNames]
  cases firstName cs key <;> rfl

/-- The names in the first records are names for the keys, if none is empty. -/
theorem naming_firstName {cs : List Course} (h : ∀ c ∈ cs, c.name ≠ some "") :
    Tables.Naming (firsts id (cs.map Course.key)) (firstName cs) where
  named key hempty := by
    obtain ⟨c, hc, hname⟩ := Option.bind_eq_some_iff.1 hempty
    exact h c (List.mem_of_find?_eq_some hc) hname
  keyed key hkey := firstName_eq_none (mt mem_firsts_id.2 hkey)

/-- The keys of several batches arrive batch by batch. -/
theorem firsts_flatten_cons (cs : List Course) (batches : List (List Course)) :
    firsts id ((cs :: batches).flatten.map Course.key) =
      addAll id (firsts id (cs.map Course.key)) (firsts id (batches.flatten.map Course.key)) := by
  rw [List.flatten_cons, List.map_append, firsts, addAll_append, ← firsts, firsts, firsts,
    addAll_addAll]
  rfl

/-- So are the names that batches give. -/
theorem naming_firstNames {batches : List (List Course)}
    (h : ∀ c ∈ batches.flatten, c.name ≠ some "") :
    Tables.Naming (firsts id (batches.flatten.map Course.key)) (firstNames batches) := by
  induction batches with
  | nil => exact ⟨fun _ => nofun, fun _ _ => rfl⟩
  | cons cs batches ih =>
    obtain ⟨hcs, hbatches⟩ := List.forall_mem_append.1 h
    rw [firsts_flatten_cons, firstNames_cons]
    exact (naming_firstName hcs).or (ih hbatches)

/-- Where no batch repeats a key, all of the records count. -/
theorem firstNames_of_nodup {batches : List (List Course)}
    (h : ∀ cs ∈ batches, (cs.map Course.key).Nodup) :
    firstNames batches = nameFor batches.flatten := by
  induction batches with
  | nil => rfl
  | cons cs batches ih =>
    obtain ⟨hcs, hbatches⟩ := List.forall_mem_cons.1 h
    have hfirst : firstName cs = nameFor cs := by
      rw [← firstName_gathered, gathered_of_nodup hcs]
    funext key
    rw [firstNames_cons, ih hbatches, hfirst, List.flatten_cons, nameFor_append]
    rfl

/-- The name in the first record is the first name, unless the name comes in a later one. -/
theorem firstName_eq_nameFor_iff {cs : List Course} {key : String × String} :
    firstName cs key = nameFor cs key ↔
      (firstName cs key = none → ∀ c ∈ cs, c.key = key → c.name = none) := by
  have hsome {n : String} (hn : firstName cs key = some n) : nameFor cs key = some n := by
    induction cs with
    | nil => cases hn
    | cons c cs ih =>
      rw [← List.singleton_append, nameFor_append, nameFor_singleton]
      by_cases hkey : c.key = key
      · rw [← hkey, firstName_cons_of_eq] at hn
        rw [if_pos hkey, hn, Option.some_or]
      · rw [firstName_cons_of_ne hkey] at hn
        rw [if_neg hkey, Option.none_or, ih hn]
  have hnone : nameFor cs key = none ↔ ∀ c ∈ cs, c.key = key → c.name = none := by
    rw [nameFor, List.findSome?_eq_none_iff]
    simp
  rw [← hnone]
  cases hfirst : firstName cs key with
  | none => simp [eq_comm]
  | some n => simp [hsome hfirst]

/-! ## Batches -/

namespace Session

/-- The session after batches of courses are saved one after the other, until one is refused. -/
def saveBatches (s : Session) : List (List Course) → Session × Except ConstraintFault Unit
  | [] => (s, .ok ())
  | cs :: batches =>
    match s.saveCourses cs with
    | (s, .ok _) => s.saveBatches batches
    | (s, .error fault) => (s, .error fault)

end Session

/-- The tables after batches of courses are saved. -/
def Tables.afterBatches (t : Tables) (batches : List (List Course)) : Tables :=
  { t with
    nodes := addAll Node.id t.nodes (batches.flatten.map fun c => courseNode c.nodeId)
    courses :=
      rowsAfter t.courses (firsts id (batches.flatten.map Course.key)) (firstNames batches) }

namespace Session

variable {s s' : Session} {cs : List Course} {batches : List (List Course)}

/-- One batch is saved exactly if its courses are admitted. -/
theorem exists_saveCourses_iff : (∃ saved, s.saveCourses cs = (s', .ok saved)) ↔
    Tables.Admits s.working.courses (firsts id (cs.map Course.key)) ∧
      s' = { s with working := { s.working with
        nodes := addAll Node.id s.working.nodes (cs.map fun c => Tables.courseNode c.nodeId)
        courses := Tables.rowsAfter s.working.courses (firsts id (cs.map Course.key))
          (firstName cs) } } := by
  constructor
  · rintro ⟨saved, h⟩
    obtain ⟨t, hsave, rfl⟩ := write_eq_ok_iff.1 h
    obtain ⟨hadmits, rfl⟩ := Tables.exists_saveCourses_iff.1 ⟨saved, hsave⟩
    exact ⟨hadmits, rfl⟩
  · rintro ⟨hadmits, rfl⟩
    obtain ⟨saved, hsave⟩ := Tables.exists_saveCourses_iff.2 ⟨hadmits, rfl⟩
    exact ⟨saved, write_eq_ok_iff.2 ⟨_, hsave, rfl⟩⟩

/-- Batches are saved one after the other. -/
theorem saveBatches_cons_eq_ok_iff : s.saveBatches (cs :: batches) = (s', .ok ()) ↔
    ∃ between, (∃ saved, s.saveCourses cs = (between, .ok saved)) ∧
      between.saveBatches batches = (s', .ok ()) := by
  rw [saveBatches]
  constructor
  · intro h
    split at h
    next between saved hfirst => exact ⟨between, ⟨saved, hfirst⟩, h⟩
    next => cases h
  · rintro ⟨between, ⟨saved, hfirst⟩, hrest⟩
    rw [hfirst]
    exact hrest

/-- Batches in which no name is empty are saved exactly if all their courses are admitted, and then
each course has the first name that a first record of a batch gives it. -/
theorem saveBatches_eq_ok_iff (hnamed : ∀ c ∈ batches.flatten, c.name ≠ some "") :
    s.saveBatches batches = (s', .ok ()) ↔
      Tables.Admits s.working.courses (firsts id (batches.flatten.map Course.key)) ∧
        s' = { s with working := s.working.afterBatches batches } := by
  -- Each batch finds what the one before it has left, so the induction is for any session.
  induction batches generalizing s with
  | nil =>
    have hnone : firsts id (([] : List (List Course)).flatten.map Course.key) = [] := rfl
    have hsame : s.working.afterBatches [] = s.working := by
      rw [Tables.afterBatches, hnone, Tables.rowsAfter_nil]
      rfl
    rw [hnone, hsame, saveBatches]
    simp [Tables.admits_nil, eq_comm]
  | cons cs batches ih =>
    obtain ⟨hcs, hbatches⟩ := List.forall_mem_append.1 hnamed
    have hnodup := nodup_firsts (batches.flatten.map Course.key)
    have hrows : Tables.rowsAfter s.working.courses
        (firsts id ((cs :: batches).flatten.map Course.key)) (firstNames (cs :: batches)) =
        Tables.rowsAfter
          (Tables.rowsAfter s.working.courses (firsts id (cs.map Course.key)) (firstName cs))
          (firsts id (batches.flatten.map Course.key)) (firstNames batches) := by
      rw [firsts_flatten_cons, firstNames_cons]
      exact ((naming_firstName hcs).rowsAfter_rowsAfter (naming_firstNames hbatches) hnodup).symm
    have hnodes : addAll Node.id s.working.nodes
        ((cs :: batches).flatten.map fun c => Tables.courseNode c.nodeId) =
        addAll Node.id
          (addAll Node.id s.working.nodes (cs.map fun c => Tables.courseNode c.nodeId))
          (batches.flatten.map fun c => Tables.courseNode c.nodeId) := by
      rw [List.flatten_cons, List.map_append, addAll_append]
    rw [saveBatches_cons_eq_ok_iff, Tables.afterBatches, hrows, hnodes, firsts_flatten_cons,
      Tables.admits_addAll hnodup (firstName cs), and_assoc]
    constructor
    · rintro ⟨between, hfirst, hrest⟩
      obtain ⟨hadmits, rfl⟩ := exists_saveCourses_iff.1 hfirst
      exact ⟨hadmits, (ih hbatches).1 hrest⟩
    · rintro ⟨hadmits, hrest⟩
      exact ⟨_, exists_saveCourses_iff.2 ⟨hadmits, rfl⟩, (ih hbatches).2 hrest⟩

end Session

/-! ## An empty store -/

namespace Tables

variable {keys : List (String × String)}

/-- In an empty store all courses are new. -/
theorem newKeys_empty (keys : List (String × String)) : newKeys [] keys = keys :=
  List.filter_eq_self.2 fun _ _ => decide_eq_true List.not_mem_nil

/-- An empty store admits courses exactly if their nodes are apart. -/
theorem admits_empty_iff : Admits [] keys ↔ (keys.map nodeOfKey).Nodup := by
  rw [admits_iff, newKeys_empty]
  simp

/-- An empty store has the new rows of the courses that it admits. -/
theorem rowsAfter_empty (keys : List (String × String))
    (name : String × String → Option String) : rowsAfter [] keys name = keys.map (newRow name) := by
  rw [rowsAfter, newKeys_empty]
  rfl

/-- Courses with different keys have nodes apart, if their node ids differ. -/
theorem admits_empty_of_apart {cs : List Course}
    (hapart : ∀ c ∈ cs, ∀ d ∈ cs, c.nodeId = d.nodeId → c.key = d.key) :
    Admits [] (firsts id (cs.map Course.key)) := by
  refine admits_empty_iff.2 ((nodup_firsts _).map_on fun key hkey key' hkey' hnode => ?_)
  obtain ⟨c, hc, rfl⟩ := List.mem_map.1 (mem_firsts_id.1 hkey)
  obtain ⟨d, hd, rfl⟩ := List.mem_map.1 (mem_firsts_id.1 hkey')
  exact hapart c hc d hd hnode

end Tables

namespace Accumulator

variable {cs : List Course}

/-- The accumulator holds the records of the courses that arrive. -/
theorem courses_run_courses (hnamed : ∀ c ∈ cs, c.name ≠ some "") :
    (run {} [.courses cs]).courses = gathered cs :=
  foldl_addCourse_gathered [] hnamed

/-- The rows of its records are those of courses that are new. -/
theorem map_row_gathered (cs : List Course) : (gathered cs).map Course.row =
    (firsts id (cs.map Course.key)).map (Tables.newRow (nameFor cs)) := by
  rw [gathered, List.map_map]
  rfl

/-- Courses are saved to an empty store as the accumulator takes them in, if no batch repeats a key.
In one batch that may repeat keys, the two agree on the name of a course exactly if its first record
has a name or none of its records has one. -/
theorem courses_upserted (hnamed : ∀ c ∈ cs, c.name ≠ some "")
    (hapart : ∀ c ∈ cs, ∀ d ∈ cs, c.nodeId = d.nodeId → c.key = d.key) :
    (∀ batches : List (List Course), batches.flatten = cs →
      (∀ batch ∈ batches, (batch.map Course.key).Nodup) →
      ∃ s, ({} : Session).saveBatches batches = (s, .ok ()) ∧
        s.working.courses = (run {} [.courses cs]).courses.map Course.row) ∧
    ∃ s saved, ({} : Session).saveCourses cs = (s, .ok saved) ∧
      s.working.courses.map CourseRow.key = (run {} [.courses cs]).courses.map Course.key ∧
      ∀ c ∈ cs, ∃ row held, s.working.course? c.key = some row ∧
        (run {} [.courses cs]).courses.find? (fun d => d.key = c.key) = some held ∧
        (row.name = held.name ↔
          (firstName cs c.key = none → ∀ d ∈ cs, d.key = c.key → d.name = none)) := by
  have hadmits : Tables.Admits ({} : Session).working.courses (firsts id (cs.map Course.key)) :=
    Tables.admits_empty_of_apart hapart
  have hheld := courses_run_courses hnamed
  constructor
  · rintro batches rfl hbatches
    refine ⟨_, (Session.saveBatches_eq_ok_iff hnamed).2 ⟨hadmits, rfl⟩, ?_⟩
    rw [hheld, map_row_gathered, ← firstNames_of_nodup hbatches]
    exact Tables.rowsAfter_empty _ _
  · obtain ⟨saved, hsave⟩ := Session.exists_saveCourses_iff.2 ⟨hadmits, rfl⟩
    have hrows := Tables.rowsAfter_empty (firsts id (cs.map Course.key)) (firstName cs)
    have hnodup := nodup_firsts (cs.map Course.key)
    refine ⟨_, saved, hsave, ?_, fun c hc => ?_⟩
    · rw [hheld, map_key_gathered]
      exact Tables.map_key_rowsAfter_firsts
    · have hkey : c.key ∈ firsts id (cs.map Course.key) :=
        mem_firsts_id.2 (List.mem_map_of_mem hc)
      have hrecords : ((gathered cs).map Course.key).Nodup := map_key_gathered cs ▸ hnodup
      refine ⟨Tables.newRow (firstName cs) c.key, courseFor cs c.key, ?_, ?_,
        firstName_eq_nameFor_iff⟩
      · exact (congrArg (List.find? _) hrows).trans (Tables.find?_map_newRow hnodup hkey)
      · rw [hheld]
        exact find?_of_mem hrecords (List.mem_map_of_mem hkey)

/-- The course `M 1`, and once more with its name, after the course `M 2`. -/
def lateName : List Course :=
  [{ subject := "M", catalog := "1" }, { subject := "M", catalog := "2", name := some "Sets" },
    { subject := "M", catalog := "1", name := some "Logic" }]

/-- In two batches `M 1` gets its name, and in one batch only `M 2` does. -/
theorem courses_upserted_lateName :
    (∃ s, ({} : Session).saveBatches [lateName.take 2, lateName.drop 2] = (s, .ok ()) ∧
      s.working.courses.map CourseRow.name = [some "Logic", some "Sets"]) ∧
    ∃ s saved, ({} : Session).saveCourses lateName = (s, .ok saved) ∧
      ∀ c ∈ lateName, ∃ row held, s.working.course? c.key = some row ∧
        (run {} [.courses lateName]).courses.find? (fun d => d.key = c.key) = some held ∧
        (row.name = held.name ↔ c.catalog = "2") := by
  have hnamed : ∀ c ∈ lateName, c.name ≠ some "" := by decide +kernel
  have hapart : ∀ c ∈ lateName, ∀ d ∈ lateName, c.nodeId = d.nodeId → c.key = d.key := by
    decide +kernel
  obtain ⟨hbatches, s, saved, hsave, -, hnames⟩ := courses_upserted hnamed hapart
  constructor
  · obtain ⟨s', hsaved, hrows⟩ :=
      hbatches [lateName.take 2, lateName.drop 2] rfl (by decide +kernel)
    refine ⟨s', hsaved, ?_⟩
    rw [hrows]
    decide +kernel
  · refine ⟨s, saved, hsave, fun c hc => ?_⟩
    obtain ⟨row, held, hrow, hheld, hagree⟩ := hnames c hc
    refine ⟨row, held, hrow, hheld, hagree.trans ?_⟩
    have hall : ∀ c ∈ lateName, ((firstName lateName c.key = none →
        ∀ d ∈ lateName, d.key = c.key → d.name = none) ↔ c.catalog = "2") := by
      decide +kernel
    exact hall c hc

/-- The name of `M 1` is passed over when both of its records come in one batch. -/
theorem passes_over_late_name :
    let cs : List Course :=
      [{ subject := "M", catalog := "1" }, { subject := "M", catalog := "1", name := some "Logic" }]
    (∀ c ∈ cs, c.name ≠ some "") ∧
      (∀ c ∈ cs, ∀ d ∈ cs, c.nodeId = d.nodeId → c.key = d.key) ∧
      (({} : Session).saveCourses cs).1.working.courses =
        [{ subject := "M", catalog := "1", nodeId := "M#1", name := none }] ∧
      (({} : Session).saveCourses cs).2 = .ok { inserted := 1, skipped := 1 } ∧
      (run {} [.courses cs]).courses =
        [{ subject := "M", catalog := "1", name := some "Logic" }] := by
  decide +kernel

end Accumulator

end Requisite
