import Requisite.Proofs.Store.Batches

/-!
# The last detail that is given stays

Details are saved one by one, and each reads back the row that those before it have written. What
comes of a row is therefore a fold over the batch (`Tables.detailed`), and the fold has a plain
meaning: of each detail, the last text that the batch gives for the course stays, the empty text
aside, and without one the detail is what it was (`Tables.stored_detailed`). So it does not matter
whether a course was stored before the batch or came with it: the rows after a batch are the stored
and the new ones under that fold (`Tables.exists_saveDetails_iff`). The same batch changes them no
more, although it leads through other rows on the way (`Tables.detailed_detailed`), and all else is
as it was (`Tables.KeepsLast`).
-/

namespace Requisite

open Schedule

/-- The details that are kept of a course. -/
inductive Detail where
  | name
  | units
  | level
  | description
  deriving DecidableEq, Repr

/-- What is given for the detail. -/
def Detail.given : Detail → CourseDetails → String
  | .name => CourseDetails.name
  | .units => CourseDetails.units
  | .level => CourseDetails.level
  | .description => CourseDetails.description

/-- What is stored of the detail. -/
def Detail.stored : Detail → CourseRow → Option String
  | .name => CourseRow.name
  | .units => CourseRow.units
  | .level => CourseRow.level
  | .description => CourseRow.description

/-- The key of the course that has the details. -/
def Schedule.CourseDetails.key (d : CourseDetails) : String × String :=
  (d.subject, d.catalog)

/-- The last text but the empty one that is given for a detail of the course with the key. -/
def lastGiven (ds : List CourseDetails) (x : Detail) (key : String × String) : Option String :=
  (ds.filter fun d => d.key = key ∧ x.given d ≠ "").getLast?.map x.given

/-- What is given first stays only if nothing is given after it. -/
theorem lastGiven_cons (d : CourseDetails) (ds : List CourseDetails) (x : Detail)
    (key : String × String) :
    lastGiven (d :: ds) x key = (lastGiven ds x key).or
      (if d.key = key ∧ x.given d ≠ "" then some (x.given d) else none) := by
  rw [lastGiven, List.filter_cons, lastGiven]
  by_cases h : d.key = key ∧ x.given d ≠ ""
  · rw [if_pos (decide_eq_true h), if_pos h, List.getLast?_cons]
    cases (ds.filter fun d => d.key = key ∧ x.given d ≠ "").getLast? <;> rfl
  · rw [if_neg (by simpa using h), if_neg h, Option.or_none]

/-- For a course that is not listed nothing is given. -/
theorem lastGiven_eq_none {ds : List CourseDetails} {key : String × String}
    (h : key ∉ ds.map CourseDetails.key) (x : Detail) : lastGiven ds x key = none := by
  have hnone : (ds.filter fun d => d.key = key ∧ x.given d ≠ "") = [] := by
    refine List.filter_eq_nil_iff.2 fun d hd hgiven => h ?_
    rw [← (of_decide_eq_true hgiven).1]
    exact List.mem_map_of_mem hd
  rw [lastGiven, hnone]
  rfl

/-- Rows with the same details of the same course are the same. -/
theorem CourseRow.ext_details {c c' : CourseRow} (hkey : c.key = c'.key)
    (hnode : c.nodeId = c'.nodeId) (h : ∀ x : Detail, x.stored c = x.stored c') : c = c' := by
  obtain ⟨hsubject, hcatalog⟩ := Prod.mk.inj hkey
  have hname := h .name
  have hunits := h .units
  have hlevel := h .level
  have hdescription := h .description
  cases c
  cases c'
  simp_all [Detail.stored]

namespace Tables

variable {rows : List CourseRow} {keys : List (String × String)} {t t' : Tables}
  {ds : List CourseDetails}

/-! ## One row -/

/-- The row after one course is given details; another course stays as it is. -/
def detailOne (d : CourseDetails) (c : CourseRow) : CourseRow :=
  if c.key = d.key then detailCourse d c else c

/-- The row after courses are given details one by one. -/
def detailed (ds : List CourseDetails) (c : CourseRow) : CourseRow :=
  ds.foldl (fun c d => detailOne d c) c

/-- Details do not change the key of a course. -/
@[simp] theorem key_detailOne (d : CourseDetails) (c : CourseRow) :
    (detailOne d c).key = c.key := by
  rw [detailOne]
  split <;> rfl

/-- Details do not change the node of a course. -/
@[simp] theorem nodeId_detailOne (d : CourseDetails) (c : CourseRow) :
    (detailOne d c).nodeId = c.nodeId := by
  rw [detailOne]
  split <;> rfl

/-- Several details one after the other do not change the key of a course. -/
@[simp] theorem key_detailed (ds : List CourseDetails) (c : CourseRow) :
    (detailed ds c).key = c.key := by
  induction ds generalizing c with
  | nil => rfl
  | cons d ds ih => exact (ih (detailOne d c)).trans (key_detailOne d c)

/-- Several details one after the other do not change the node of a course. -/
@[simp] theorem nodeId_detailed (ds : List CourseDetails) (c : CourseRow) :
    (detailed ds c).nodeId = c.nodeId := by
  induction ds generalizing c with
  | nil => rfl
  | cons d ds ih => exact (ih (detailOne d c)).trans (nodeId_detailOne d c)

/-- A detail is replaced by what is given for it, unless that is the empty text. -/
theorem stored_detailCourse (d : CourseDetails) (x : Detail) (c : CourseRow) :
    x.stored (detailCourse d c) = newer (x.given d) (x.stored c) := by
  cases x <;> rfl

/-- Of each detail the last that is given stays, or else what was stored. -/
theorem stored_detailed (ds : List CourseDetails) (x : Detail) (c : CourseRow) :
    x.stored (detailed ds c) = (lastGiven ds x c.key).or (x.stored c) := by
  -- Each of the details reads the row that the one before it has written.
  induction ds generalizing c with
  | nil => rfl
  | cons d ds ih =>
    have hone : x.stored (detailOne d c) =
        (if d.key = c.key ∧ x.given d ≠ "" then some (x.given d) else none).or (x.stored c) := by
      rw [detailOne]
      by_cases hkey : c.key = d.key
      · rw [if_pos hkey, stored_detailCourse, newer]
        by_cases hempty : x.given d = "" <;> simp [hkey, hempty]
      · rw [if_neg hkey, if_neg fun h => hkey h.1.symm, Option.none_or]
    calc x.stored (detailed (d :: ds) c)
        = x.stored (detailed ds (detailOne d c)) := rfl
      _ = (lastGiven ds x c.key).or (x.stored (detailOne d c)) := by rw [ih, key_detailOne]
      _ = (lastGiven (d :: ds) x c.key).or (x.stored c) := by
        rw [hone, lastGiven_cons, Option.or_assoc]

/-- A course that is not listed stays as it is. -/
theorem detailed_of_not_mem {c : CourseRow} (h : c.key ∉ ds.map CourseDetails.key) :
    detailed ds c = c := by
  refine CourseRow.ext_details (key_detailed ds c) (nodeId_detailed ds c) fun x => ?_
  rw [stored_detailed, lastGiven_eq_none h, Option.none_or]

/-- The same details given again change nothing. -/
theorem detailed_detailed (c : CourseRow) : detailed ds (detailed ds c) = detailed ds c := by
  refine CourseRow.ext_details (key_detailed ds _) (nodeId_detailed ds _) fun x => ?_
  rw [stored_detailed, stored_detailed, key_detailed, ← Option.or_assoc, Option.or_self]

/-! ## All rows -/

/-- The rows with those of new courses behind them, of which no detail is known. -/
def enrolled (rows : List CourseRow) (keys : List (String × String)) : List CourseRow :=
  rows ++ (newKeys rows keys).map (newRow fun _ => none)

/-- They are the rows that come after courses without names. -/
theorem rowsAfter_none : rowsAfter rows keys (fun _ => none) = enrolled rows keys := by
  have hnone (d : CourseRow) : nameAmong keys (fun _ => none) d = d := by
    rw [nameAmong, nameCourse]
    split
    next =>
      split
      next h => rw [← h.1]
      next => rfl
    next => rfl
  rw [rowsAfter, enrolled]
  congr 1
  exact (List.map_congr_left fun d _ => hnone d).trans (List.map_id rows)

/-- Courses come one by one as they come together. -/
theorem enrolled_enrolled {keys' : List (String × String)} (h : keys'.Nodup) :
    enrolled (enrolled rows keys) keys' = enrolled rows (addAll id keys keys') := by
  have hnaming (keys : List (String × String)) : Naming keys fun _ => none :=
    ⟨fun _ => nofun, fun _ _ => rfl⟩
  have htwo : rowsAfter (rowsAfter rows keys fun _ => none) keys' (fun _ => none) =
      rowsAfter rows (addAll id keys keys') (orName (fun _ => none) fun _ => none) :=
    (hnaming keys).rowsAfter_rowsAfter (hnaming keys') h
  have hnames : orName (fun _ => none) (fun _ => none) = fun _ => none := rfl
  rwa [hnames, rowsAfter_none, rowsAfter_none, rowsAfter_none] at htwo

/-- What becomes of the courses does not matter to which others are new. -/
theorem newKeys_map {f : CourseRow → CourseRow} (hkey : ∀ c, (f c).key = c.key) :
    newKeys (rows.map f) keys = newKeys rows keys := by
  have hsame : CourseRow.key ∘ f = CourseRow.key := funext hkey
  rw [newKeys, List.map_map, hsame, newKeys]

/-- Nor to whether they are admitted. -/
theorem admits_map {f : CourseRow → CourseRow} (hkey : ∀ c, (f c).key = c.key)
    (hnode : ∀ c, (f c).nodeId = c.nodeId) : Admits (rows.map f) keys ↔ Admits rows keys := by
  have hsame : CourseRow.nodeId ∘ f = CourseRow.nodeId := funext hnode
  rw [admits_iff, admits_iff, newKeys_map hkey, List.map_map, hsame]

/-- New courses come behind as they did before, if nothing has become of them. -/
theorem enrolled_map {f : CourseRow → CourseRow} (hkey : ∀ c, (f c).key = c.key)
    (hnew : ∀ key ∈ newKeys rows keys,
      f (newRow (fun _ => none) key) = newRow (fun _ => none) key) :
    enrolled (rows.map f) keys = (enrolled rows keys).map f := by
  rw [enrolled, newKeys_map hkey, enrolled, List.map_append, List.map_map]
  congr 1
  exact (List.map_congr_left hnew).symm

section

variable {key : String × String}

/-- A stored course is not new. -/
theorem enrolled_of_mem (h : key ∈ rows.map CourseRow.key) : enrolled rows [key] = rows := by
  rw [enrolled, newKeys_cons_of_mem h]
  exact List.append_nil rows

/-- A stored course is not refused. -/
theorem admits_of_mem (h : key ∈ rows.map CourseRow.key) : Admits rows [key] := by
  rw [admits_iff, newKeys_cons_of_mem h]
  exact ⟨List.nodup_nil, List.forall_mem_nil _⟩

/-- A course that is not stored comes behind those that are. -/
theorem enrolled_of_not_mem (h : key ∉ rows.map CourseRow.key) :
    enrolled rows [key] = rows ++ [newRow (fun _ => none) key] := by
  rw [enrolled, newKeys_cons_of_not_mem h]
  rfl

/-- A course that is not stored is refused exactly if its node belongs to a stored one. -/
theorem admits_of_not_mem (h : key ∉ rows.map CourseRow.key) :
    Admits rows [key] ↔ nodeOfKey key ∉ rows.map CourseRow.nodeId := by
  have hnil : newKeys rows [] = [] := rfl
  rw [admits_iff, newKeys_cons_of_not_mem h, hnil]
  simp

end

/-- The tables after the details of one course are saved: it is enrolled, and given its details. -/
def withDetails (t : Tables) (d : CourseDetails) : Tables :=
  { t with courses := (enrolled t.courses [d.key]).map (detailOne d) }

/-- A stored course is changed in its place, and another one comes behind, unless its node belongs
to a stored one. -/
theorem saveDetailsOf_cons (saved : DetailsSaved) (t : Tables) (d : CourseDetails)
    (ds : List CourseDetails) : saveDetailsOf saved t (d :: ds) =
      if d.key ∈ t.courses.map CourseRow.key then
        saveDetailsOf { saved with updated := saved.updated + 1 } (t.withDetails d) ds
      else if nodeOfKey d.key ∈ t.courses.map CourseRow.nodeId then .error .sharedCourseNode
      else saveDetailsOf { saved with inserted := saved.inserted + 1 } (t.withDetails d) ds := by
  have hfound : (t.course? (d.subject, d.catalog)).isSome ↔ d.key ∈ t.courses.map CourseRow.key :=
    isSome_course?_iff
  rw [saveDetailsOf]
  by_cases hstored : d.key ∈ t.courses.map CourseRow.key
  · have hupdated : t.updateCourse (d.subject, d.catalog) (detailCourse d) = t.withDetails d := by
      rw [withDetails, enrolled_of_mem hstored]
      rfl
    dsimp only
    rw [if_pos (hfound.2 hstored), if_pos hstored, hupdated]
  · have hold : t.courses.map (detailOne d) = t.courses := by
      refine (List.map_congr_left fun c hc => ?_).trans (List.map_id t.courses)
      exact if_neg fun heq : c.key = d.key => hstored (heq ▸ List.mem_map_of_mem hc)
    have hlast : detailOne d (newRow (fun _ => none) d.key) =
        detailCourse d (newRow (fun _ => none) d.key) := if_pos rfl
    have hinserted : t.insertCourse (detailCourse d (newRow (fun _ => none) d.key)) =
        if nodeOfKey d.key ∈ t.courses.map CourseRow.nodeId then .error .sharedCourseNode
        else .ok (t.withDetails d) := by
      rw [insertCourse_eq, withDetails, enrolled_of_not_mem hstored, List.map_append, hold,
        List.map_singleton, hlast]
      rfl
    have hrow : (⟨d.subject, d.catalog, detailsNodeId d, none, none, none, none⟩ : CourseRow) =
        newRow (fun _ => none) d.key := rfl
    dsimp only
    rw [if_neg (mt hfound.1 hstored), if_neg hstored, hrow, hinserted]
    split <;> rfl

/-- Details are saved exactly if their courses are admitted, and then the rows are the stored and
the new ones with all the details. -/
theorem exists_saveDetailsOf_iff (saved : DetailsSaved) :
    (∃ saved', saveDetailsOf saved t ds = .ok (t', saved')) ↔
      Admits t.courses (firsts id (ds.map CourseDetails.key)) ∧
        t' = { t with
          courses :=
            (enrolled t.courses (firsts id (ds.map CourseDetails.key))).map (detailed ds) } := by
  induction ds generalizing saved t with
  | nil =>
    have hnone : firsts id (([] : List CourseDetails).map CourseDetails.key) = [] := rfl
    have hsame : (enrolled t.courses []).map (detailed []) = t.courses := by
      rw [enrolled, newKeys, List.filter_nil, List.map_nil, List.append_nil]
      exact List.map_id t.courses
    rw [hnone, hsame, saveDetailsOf]
    simp [admits_nil, eq_comm]
  | cons d ds ih =>
    have hnodup := nodup_firsts (ds.map CourseDetails.key)
    have hkeys : firsts id ((d :: ds).map CourseDetails.key) =
        addAll id [d.key] (firsts id (ds.map CourseDetails.key)) :=
      (addAll_addAll id [d.key] [] (ds.map CourseDetails.key)).symm
    -- The first course is stored when the rest is saved, so it does not come with the new ones.
    have hnew : ∀ key ∈ newKeys (enrolled t.courses [d.key]) (firsts id (ds.map CourseDetails.key)),
        detailOne d (newRow (fun _ => none) key) = newRow (fun _ => none) key := by
      intro key hkey
      have hfirst : d.key ∈ (enrolled t.courses [d.key]).map CourseRow.key := by
        rw [← rowsAfter_none]
        exact mem_map_key_rowsAfter List.mem_cons_self
      have hne : key ≠ d.key := fun heq =>
        of_decide_eq_true (List.mem_filter.1 hkey).2 (heq ▸ hfirst)
      exact if_neg hne
    have hrest (saved : DetailsSaved) :
        (∃ saved', saveDetailsOf saved (t.withDetails d) ds = .ok (t', saved')) ↔
          Admits (enrolled t.courses [d.key]) (firsts id (ds.map CourseDetails.key)) ∧
            t' = { t with courses := (enrolled t.courses (addAll id [d.key]
              (firsts id (ds.map CourseDetails.key)))).map (detailed (d :: ds)) } := by
      rw [ih, withDetails, admits_map (key_detailOne d) (nodeId_detailOne d),
        enrolled_map (key_detailOne d) hnew, enrolled_enrolled hnodup, List.map_map]
      rfl
    rw [hkeys, admits_addAll hnodup (fun _ => none), rowsAfter_none, saveDetailsOf_cons, and_assoc]
    by_cases hstored : d.key ∈ t.courses.map CourseRow.key
    · rw [if_pos hstored, and_iff_right (admits_of_mem hstored)]
      exact hrest _
    · rw [if_neg hstored, admits_of_not_mem hstored]
      by_cases hnode : nodeOfKey d.key ∈ t.courses.map CourseRow.nodeId
      · rw [if_pos hnode]
        simp [hnode]
      · rw [if_neg hnode, and_iff_right hnode]
        exact hrest _

/-- As many are counted as inserted as there are rows more, and the rest of them as updates. -/
theorem counts_saveDetailsOf {saved saved' : DetailsSaved}
    (h : saveDetailsOf saved t ds = .ok (t', saved')) :
    saved'.inserted + t.courses.length = saved.inserted + t'.courses.length ∧
      saved'.inserted + saved'.updated = saved.inserted + saved.updated + ds.length := by
  induction ds generalizing saved t with
  | nil =>
    cases h
    exact ⟨rfl, rfl⟩
  | cons d ds ih =>
    rw [saveDetailsOf_cons] at h
    split at h
    next hstored =>
      obtain ⟨hrows, hall⟩ := ih h
      rw [withDetails, enrolled_of_mem hstored, List.length_map] at hrows
      simp only at hall
      rw [List.length_cons]
      exact ⟨hrows, by omega⟩
    next hstored =>
      split at h
      · cases h
      · obtain ⟨hrows, hall⟩ := ih h
        rw [withDetails, enrolled_of_not_mem hstored, List.length_map, List.length_append,
          List.length_singleton] at hrows
        simp only at hrows hall
        rw [List.length_cons]
        omega

/-! ## A batch -/

/-- The tables after details are saved that are not refused: the nodes of their courses arrive by
their ids, and the courses are enrolled and given all the details. -/
def afterDetails (t : Tables) (ds : List CourseDetails) : Tables :=
  { t with
    nodes := addAll Node.id t.nodes (ds.map fun d => courseNode (detailsNodeId d))
    courses := (enrolled t.courses (firsts id (ds.map CourseDetails.key))).map (detailed ds) }

/-- Details are saved exactly if their courses are admitted, and then the tables are those that come
after them. -/
theorem exists_saveDetails_iff : (∃ saved, t.saveDetails ds = .ok (t', saved)) ↔
    Admits t.courses (firsts id (ds.map CourseDetails.key)) ∧ t' = t.afterDetails ds := by
  have hafter : t.saveDetails ds =
      saveDetailsOf {} (t.saveNodes (ds.map fun d => courseNode (detailsNodeId d))).1 ds := rfl
  rw [hafter, exists_saveDetailsOf_iff, nodes_saveNodes]
  rfl

/-- Every one of the details that are saved is counted. -/
theorem inserted_add_updated_saveDetails {saved : DetailsSaved}
    (h : t.saveDetails ds = .ok (t', saved)) : saved.inserted + saved.updated = ds.length :=
  (counts_saveDetailsOf h).2.trans (Nat.zero_add _)

/-- As many courses count as new as there are rows more. -/
theorem inserted_saveDetails {saved : DetailsSaved} (h : t.saveDetails ds = .ok (t', saved)) :
    saved.inserted + t.courses.length = t'.courses.length :=
  (counts_saveDetailsOf h).1.trans (Nat.zero_add _)

/-- The keys of the courses arrive one by one. -/
theorem map_key_afterDetails (t : Tables) (ds : List CourseDetails) :
    (t.afterDetails ds).courses.map CourseRow.key =
      addAll id (t.courses.map CourseRow.key) (ds.map CourseDetails.key) := by
  have hkeys : CourseRow.key ∘ detailed ds = CourseRow.key := funext (key_detailed ds)
  rw [afterDetails, List.map_map, hkeys, ← rowsAfter_none, map_key_rowsAfter_firsts]

/-- A course that is listed is stored, with the last of each detail that is given. -/
theorem exists_course?_afterDetails (t : Tables) {d : CourseDetails} (hd : d ∈ ds) :
    ∃ c, (t.afterDetails ds).course? d.key = some c ∧
      c.nodeId = ((t.course? d.key).map CourseRow.nodeId).getD (nodeOfKey d.key) ∧
      ∀ x : Detail, x.stored c = (lastGiven ds x d.key).or ((t.course? d.key).bind x.stored) := by
  have hfind : (t.afterDetails ds).course? d.key =
      ((t.course? d.key).or
        (((newKeys t.courses (firsts id (ds.map CourseDetails.key))).map
          (newRow fun _ => none)).find? fun c => c.key = d.key)).map (detailed ds) := by
    rw [course?, afterDetails, List.find?_map, course?, ← List.find?_append]
    simp only [Function.comp_def, key_detailed]
    rfl
  cases hstored : t.course? d.key with
  | some c =>
    have hkey : c.key = d.key := of_decide_eq_true (List.find?_some hstored :)
    refine ⟨detailed ds c, by rw [hfind, hstored]; rfl, nodeId_detailed ds c, fun x => ?_⟩
    rw [stored_detailed, hkey, Option.bind_some]
  | none =>
    have hnew : d.key ∈ newKeys t.courses (firsts id (ds.map CourseDetails.key)) := by
      refine List.mem_filter.2 ⟨mem_firsts_id.2 (List.mem_map_of_mem hd), decide_eq_true ?_⟩
      rw [← isSome_course?_iff, hstored]
      exact Bool.false_ne_true
    refine ⟨detailed ds (newRow (fun _ => none) d.key), ?_, nodeId_detailed ds _, fun x => ?_⟩
    · rw [hfind, hstored, Option.none_or]
      exact congrArg _ (find?_map_newRow ((nodup_firsts _).filter _) hnew)
    · have hnone : x.stored (newRow (fun _ => none) d.key) = none := by cases x <;> rfl
      rw [stored_detailed, hnone]
      rfl

/-- The courses of the batch are stored after it. -/
theorem newKeys_afterDetails (t : Tables) (ds : List CourseDetails) :
    newKeys (t.afterDetails ds).courses (firsts id (ds.map CourseDetails.key)) = [] := by
  rw [afterDetails, newKeys_map (key_detailed ds), ← rowsAfter_none]
  exact newKeys_rowsAfter_self

/-- After the same details the tables are the same. -/
theorem afterDetails_self : (t.afterDetails ds).afterDetails ds = t.afterDetails ds := by
  have hnodes : addAll Node.id (t.afterDetails ds).nodes
      (ds.map fun d => courseNode (detailsNodeId d)) = (t.afterDetails ds).nodes := by
    refine addAll_of_forall_mem fun n hn => ?_
    rw [afterDetails, mem_map_addAll]
    exact .inr (List.mem_map_of_mem hn)
  have hcourses : (enrolled (t.afterDetails ds).courses
      (firsts id (ds.map CourseDetails.key))).map (detailed ds) = (t.afterDetails ds).courses := by
    rw [enrolled, newKeys_afterDetails, List.map_nil, List.append_nil, afterDetails, List.map_map]
    exact List.map_congr_left fun c _ => detailed_detailed c
  rw [afterDetails, hnodes, hcourses]

/-! ## What is left, and what is counted -/

/-- Of the rows that stay as they are, none is changed by details. -/
theorem filter_afterDetails (t : Tables) (ds : List CourseDetails) :
    ((t.afterDetails ds).courses.filter fun c => c.key ∉ ds.map CourseDetails.key) =
      t.courses.filter fun c => c.key ∉ ds.map CourseDetails.key := by
  have hnew : ((newKeys t.courses (firsts id (ds.map CourseDetails.key))).map
      (newRow fun _ => none)).filter (fun c => c.key ∉ ds.map CourseDetails.key) = [] := by
    refine List.filter_eq_nil_iff.2 fun c hc hother => of_decide_eq_true hother ?_
    obtain ⟨key, hkey, rfl⟩ := List.mem_map.1 hc
    exact mem_firsts_id.1 (List.mem_of_mem_filter hkey)
  have hother : (fun c : CourseRow => decide (c.key ∉ ds.map CourseDetails.key)) ∘ detailed ds =
      fun c => decide (c.key ∉ ds.map CourseDetails.key) := by
    funext c
    rw [Function.comp_apply, key_detailed]
  rw [afterDetails, List.filter_map, hother, enrolled, List.filter_append, hnew, List.append_nil]
  refine (List.map_congr_left fun c hc => ?_).trans (List.map_id _)
  exact detailed_of_not_mem (of_decide_eq_true (List.mem_filter.1 hc).2)

/-- As many rows are new as there are different keys that were not stored. -/
theorem length_afterDetails (t : Tables) (ds : List CourseDetails) :
    (t.afterDetails ds).courses.length = t.courses.length +
      ((ds.map CourseDetails.key).toFinset \ (t.courses.map CourseRow.key).toFinset).card := by
  have hnew : (newKeys t.courses (firsts id (ds.map CourseDetails.key))).toFinset =
      (ds.map CourseDetails.key).toFinset \ (t.courses.map CourseRow.key).toFinset := by
    ext key
    rw [List.mem_toFinset, Finset.mem_sdiff, List.mem_toFinset, List.mem_toFinset, newKeys,
      List.mem_filter, decide_eq_true_iff, mem_firsts_id]
  have hnodup : (newKeys t.courses (firsts id (ds.map CourseDetails.key))).Nodup :=
    (nodup_firsts _).filter _
  rw [← hnew, List.toFinset_card_of_nodup hnodup, afterDetails, List.length_map, enrolled,
    List.length_append, List.length_map]

/-- The nodes of a batch are the value nodes of its courses. -/
theorem mem_courseNodes_iff {n : Node} : n ∈ ds.map (fun d => courseNode (detailsNodeId d)) ↔
    n.kind = .value ∧ ∃ d ∈ ds, n.id = courseNodeId d.subject d.catalog := by
  constructor
  · intro hn
    obtain ⟨d, hd, rfl⟩ := List.mem_map.1 hn
    exact ⟨rfl, d, hd, rfl⟩
  · obtain ⟨id, kind⟩ := n
    rintro ⟨hkind, d, hd, hid⟩
    obtain rfl : kind = .value := hkind
    obtain rfl : id = detailsNodeId d := hid
    exact List.mem_map.2 ⟨d, hd, rfl⟩

/-- Those that were not stored come behind the others. -/
theorem exists_nodes_afterDetails (t : Tables) (ds : List CourseDetails) :
    ∃ fresh, (t.afterDetails ds).nodes = t.nodes ++ fresh ∧ (fresh.map Node.id).Nodup ∧
      ∀ n, n ∈ fresh ↔ n.kind = .value ∧ n.id ∉ t.nodes.map Node.id ∧
        ∃ d ∈ ds, n.id = courseNodeId d.subject d.catalog := by
  -- Two of them with one id are the same, since both are value nodes.
  have hsame : ∀ n ∈ ds.map (fun d => courseNode (detailsNodeId d)),
      ∀ n' ∈ ds.map (fun d => courseNode (detailsNodeId d)), n.id = n'.id → n = n' := by
    rintro ⟨id, kind⟩ hn ⟨id', kind'⟩ hn' hid
    have hkind : kind = kind' :=
      (mem_courseNodes_iff.1 hn).1.trans (mem_courseNodes_iff.1 hn').1.symm
    obtain rfl : id = id' := hid
    rw [hkind]
  refine ⟨_, addAll_eq_append Node.id t.nodes _, ?_, fun n => ?_⟩
  · exact (nodup_map_firsts Node.id _).sublist (List.filter_sublist.map Node.id)
  · rw [List.mem_filter, decide_eq_true_iff, mem_firsts hsame, mem_courseNodes_iff, and_assoc,
      and_comm (a := ∃ d ∈ ds, n.id = courseNodeId d.subject d.catalog)]

/-- What a batch of details makes of the tables `t`, and what it counts. -/
structure KeepsLast (t : Tables) (ds : List CourseDetails) (saved : DetailsSaved) (t' : Tables) :
    Prop where
  /-- A listed course has of each detail the last text that is given for it and is not empty, or
  else what was stored, which is nothing for a new course. Its node stays, and is its own for a new
  course. -/
  listed : ∀ d ∈ ds, ∃ c, t'.course? d.key = some c ∧
    c.nodeId = ((t.course? d.key).map CourseRow.nodeId).getD (nodeOfKey d.key) ∧
    ∀ x : Detail, x.stored c = (lastGiven ds x d.key).or ((t.course? d.key).bind x.stored)
  /-- The rows of the other courses are as they were. -/
  others : (t'.courses.filter fun c => c.key ∉ ds.map CourseDetails.key) =
    t.courses.filter fun c => c.key ∉ ds.map CourseDetails.key
  /-- The stored courses stay where they are, and each new one comes behind them once. -/
  keys : t'.courses.map CourseRow.key =
    addAll id (t.courses.map CourseRow.key) (ds.map CourseDetails.key)
  /-- The different courses that were not stored are counted as inserted, -/
  inserted : saved.inserted =
    ((ds.map CourseDetails.key).toFinset \ (t.courses.map CourseRow.key).toFinset).card
  /-- and the rest of the details as updates. -/
  updated : saved.inserted + saved.updated = ds.length
  /-- The new nodes are value nodes, one for each course that had no node. -/
  nodes : ∃ fresh, t'.nodes = t.nodes ++ fresh ∧ (fresh.map Node.id).Nodup ∧
    ∀ n, n ∈ fresh ↔ n.kind = .value ∧ n.id ∉ t.nodes.map Node.id ∧
      ∃ d ∈ ds, n.id = courseNodeId d.subject d.catalog
  relations : t'.relations = t.relations
  quarters : t'.quarters = t.quarters
  subjects : t'.subjects = t.subjects
  links : t'.links = t.links

/-- That is what comes of details that are saved. -/
theorem keepsLast_of_saveDetails {saved : DetailsSaved} (h : t.saveDetails ds = .ok (t', saved)) :
    t.KeepsLast ds saved t' := by
  have hcounted := inserted_add_updated_saveDetails h
  have hinserted := inserted_saveDetails h
  obtain ⟨-, rfl⟩ := exists_saveDetails_iff.1 ⟨saved, h⟩
  rw [length_afterDetails] at hinserted
  exact {
    listed := fun d hd => exists_course?_afterDetails t hd
    others := filter_afterDetails t ds
    keys := map_key_afterDetails t ds
    inserted := by omega
    updated := hcounted
    nodes := exists_nodes_afterDetails t ds
    relations := rfl
    quarters := rfl
    subjects := rfl
    links := rfl }

end Tables

namespace Session

variable {s s' : Session} {ds : List CourseDetails}

/-- Details that are saved leave of each detail of a course the last that is given, touch nothing
else, and last. Saved again they change nothing, and are all counted as updates. -/
theorem saveDetails_keeps_last {saved : DetailsSaved} (h : s.saveDetails ds = (s', .ok saved)) :
    s.working.KeepsLast ds saved s'.working ∧ s'.committed = s'.working ∧
      s'.saveDetails ds = (s', .ok { inserted := 0, updated := ds.length }) := by
  obtain ⟨t, hsave, rfl⟩ := transact_eq_ok_iff.1 h
  refine ⟨Tables.keepsLast_of_saveDetails hsave, rfl, transact_eq_ok_iff.2 ⟨t, ?_, rfl⟩⟩
  obtain ⟨-, rfl⟩ := Tables.exists_saveDetails_iff.1 ⟨saved, hsave⟩
  -- All courses of the batch are stored by now, so none of them can be refused.
  have hadmits : Tables.Admits (s.working.afterDetails ds).courses
      (firsts id (ds.map CourseDetails.key)) := by
    rw [Tables.admits_iff, Tables.newKeys_afterDetails]
    exact ⟨List.nodup_nil, List.forall_mem_nil _⟩
  obtain ⟨again, hagain⟩ :=
    Tables.exists_saveDetails_iff.2 ⟨hadmits, Tables.afterDetails_self.symm⟩
  have hkeeps := Tables.keepsLast_of_saveDetails hagain
  have hinserted : again.inserted = 0 := by
    have hlength := Tables.length_afterDetails (s.working.afterDetails ds) ds
    rw [Tables.afterDetails_self, ← hkeeps.inserted] at hlength
    omega
  have hupdated : again.updated = ds.length := by
    have hcounted := hkeeps.updated
    omega
  rw [hagain, ← hinserted, ← hupdated]

/-- Details of a stored and of a new course, two of each, with texts that are left empty. -/
def repeatedDetails : List CourseDetails :=
  [{ subject := "M", catalog := "1", name := "Sets", units := "4" },
    { subject := "H", catalog := "2", name := "", level := "Upper Division" },
    { subject := "M", catalog := "1", name := "Models" },
    { subject := "H", catalog := "2", name := "Rome" }]

/-- A store in which one of the two courses is described. -/
def described : Session :=
  let t : Tables :=
    { nodes := [⟨"M#1", .value⟩]
      courses :=
        [{ subject := "M", catalog := "1", nodeId := "M#1", name := some "Logic",
            description := some "Proofs" }] }
  { committed := t, working := t }

/-- The last texts stay, and empty ones take away neither those before them nor those stored. -/
theorem saveDetails_keeps_last_repeatedDetails : ∃ s',
    described.saveDetails repeatedDetails = (s', .ok { inserted := 1, updated := 3 }) ∧
      s'.committed.courses =
        [{ subject := "M", catalog := "1", nodeId := "M#1", name := some "Models",
            units := some "4", description := some "Proofs" },
          { subject := "H", catalog := "2", nodeId := "H#2", name := some "Rome",
            level := some "Upper Division" }] ∧
      described.working.KeepsLast repeatedDetails { inserted := 1, updated := 3 } s'.working ∧
      s'.saveDetails repeatedDetails = (s', .ok { inserted := 0, updated := 4 }) := by
  have hrun : described.saveDetails repeatedDetails =
      ((described.saveDetails repeatedDetails).1, .ok { inserted := 1, updated := 3 }) := by
    decide +kernel
  obtain ⟨hkeeps, -, hagain⟩ := saveDetails_keeps_last hrun
  exact ⟨_, hrun, by decide +kernel, hkeeps, hagain⟩

end Session

end Requisite
