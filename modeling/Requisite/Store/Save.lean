import Requisite.FirstArrival
import Requisite.Schedule.Details
import Requisite.Store.Tables

/-!
# Saving

Saving inserts what is absent and leaves what is there, with two exceptions: a course without a name
is given one, and new details of a course replace old ones. Known rows are looked up before any is
inserted, in slices of bounded size. A row that breaks a constraint of its table makes the whole
batch fail.
-/

namespace Requisite

open Schedule

/-- A constraint of a table that a row breaks. -/
inductive ConstraintFault where
  /-- Two courses have one node. -/
  | sharedCourseNode
  /-- A quarter lacks its code. -/
  | quarterWithoutCode
  /-- A quarter lacks its name. -/
  | quarterWithoutName
  /-- A subject area lacks its code. -/
  | subjectWithoutCode
  /-- A subject area lacks its name. -/
  | subjectWithoutName
  /-- A link lacks its quarter. -/
  | linkWithoutQuarter
  /-- A link lacks its subject area. -/
  | linkWithoutSubject
  deriving DecidableEq, Repr

/-- The message for a broken constraint. -/
def ConstraintFault.message : ConstraintFault → String
  | .sharedCourseNode => "UNIQUE constraint failed: courses.node_id"
  | .quarterWithoutCode => "NOT NULL constraint failed: quarters.code"
  | .quarterWithoutName => "NOT NULL constraint failed: quarters.name"
  | .subjectWithoutCode => "NOT NULL constraint failed: subject_areas.code"
  | .subjectWithoutName => "NOT NULL constraint failed: subject_areas.name"
  | .linkWithoutQuarter => "NOT NULL constraint failed: quarter_subject_areas.quarter_code"
  | .linkWithoutSubject => "NOT NULL constraint failed: quarter_subject_areas.subject_area_code"

/-- What saving a batch did. -/
structure Saved where
  inserted : Nat := 0
  skipped : Nat := 0
  deriving DecidableEq, Repr

/-- What saving a graph did, by table. -/
structure GraphSaved where
  nodes : Saved
  courses : Saved
  relations : Saved
  deriving DecidableEq, Repr

/-- What saving course details did. -/
structure DetailsSaved where
  inserted : Nat := 0
  updated : Nat := 0
  deriving DecidableEq, Repr

namespace Tables

/-! ## Looking up in slices -/

/-- The most keys that are looked up at once. -/
def sliceSize : Nat := 500

/-- The elements of `pending` and then of the list, in slices of `size`; the last may be shorter. -/
def slicesAfter {α : Type} (size : Nat) : List α → List α → List (List α)
  | pending, [] => if pending.isEmpty then [] else [pending]
  | pending, x :: xs =>
    if pending.length + 1 < size then slicesAfter size (pending ++ [x]) xs
    else (pending ++ [x]) :: slicesAfter size [] xs

/-- The elements in slices of at most `sliceSize`. -/
def slices {α : Type} (xs : List α) : List (List α) :=
  slicesAfter sliceSize [] xs

/-- Those of the ids that have a node. -/
def knownNodeIds (t : Tables) (ids : List String) : List String :=
  (slices ids).flatMap fun slice => (t.nodes.map Node.id).filter slice.contains

/-- The stored relations from one of the sources. -/
def relationsFrom (t : Tables) (sources : List String) : List Relation :=
  (slices sources).flatMap fun slice => t.relations.filter fun r => slice.contains r.source

/-! ## The graph -/

/-- The tables after nodes are saved. -/
def saveNodes (t : Tables) (ns : List Node) : Tables × Saved :=
  let unique := firsts Node.id ns
  let known := t.knownNodeIds (unique.map Node.id)
  let fresh := unique.filter fun n => !known.contains n.id
  ({ t with nodes := t.nodes ++ fresh },
    { inserted := fresh.length, skipped := unique.length - fresh.length })

/-- The value node for a course. -/
def courseNode (id : String) : Node := ⟨id, .value⟩

/-- The tables with one more course, unless its node belongs to another course. -/
def insertCourse (t : Tables) (c : CourseRow) : Except ConstraintFault Tables :=
  if (t.courseOfNode? c.nodeId).isSome then .error .sharedCourseNode
  else .ok { t with courses := t.courses ++ [c] }

/-- The tables with the stored course of a key changed. -/
def updateCourse (t : Tables) (key : String × String) (f : CourseRow → CourseRow) : Tables :=
  { t with courses := t.courses.map fun c => if c.key = key then f c else c }

/-- The stored course with the name, where it has none and the name is not empty. -/
def nameCourse (name : Option String) (c : CourseRow) : CourseRow :=
  if c.name = none ∧ name ≠ some "" then { c with name } else c

/-- The tables after courses are saved one by one; `seen` holds the keys of those before them in the
batch, and of a key that was seen nothing more is saved. -/
def saveCoursesAfter :
    List (String × String) → Saved → Tables → List Course → Except ConstraintFault (Tables × Saved)
  | _, saved, t, [] => .ok (t, saved)
  | seen, saved, t, c :: cs =>
    if seen.contains c.key then
      saveCoursesAfter seen { saved with skipped := saved.skipped + 1 } t cs
    else if (t.course? c.key).isSome then
      saveCoursesAfter (c.key :: seen) { saved with skipped := saved.skipped + 1 }
        (t.updateCourse c.key (nameCourse c.name)) cs
    else do
      let row : CourseRow :=
        { subject := c.subject, catalog := c.catalog, nodeId := c.nodeId, name := c.name }
      let t ← t.insertCourse row
      saveCoursesAfter (c.key :: seen) { saved with inserted := saved.inserted + 1 } t cs

/-- The tables after courses are saved, each with its node. -/
def saveCourses (t : Tables) (cs : List Course) : Except ConstraintFault (Tables × Saved) :=
  let (t, _) := t.saveNodes (cs.map fun c => courseNode c.nodeId)
  saveCoursesAfter [] {} t cs

/-- The relations of a batch that are neither known nor repeated, in order. -/
def newRelations : List Relation → List Relation → List Relation
  | _, [] => []
  | known, r :: rs =>
    if known.contains r then newRelations known rs else r :: newRelations (r :: known) rs

/-- The tables after relations are saved. -/
def saveRelations (t : Tables) (rs : List Relation) : Tables × Saved :=
  let known := t.relationsFrom (firsts id (rs.map Relation.source))
  let fresh := newRelations known rs
  ({ t with relations := t.relations ++ fresh },
    { inserted := fresh.length, skipped := rs.length - fresh.length })

/-- The tables after a graph is saved. -/
def saveGraph (t : Tables) (ns : List Node) (cs : List Course) (rs : List Relation) :
    Except ConstraintFault (Tables × GraphSaved) := do
  let (t, nodes) := t.saveNodes ns
  let (t, courses) ← t.saveCourses cs
  let (t, relations) := t.saveRelations rs
  .ok (t, { nodes, courses, relations })

/-! ## Quarters and subject areas -/

/-- The tables after quarters, by code and name, are saved one by one, and how many were
inserted. -/
def saveQuarters (t : Tables) :
    List (Option String × Option String) → Except ConstraintFault (Tables × Nat)
  | [] => .ok (t, 0)
  | (none, _) :: _ => .error .quarterWithoutCode
  | (some code, name) :: rest =>
    if t.quarters.any fun q => q.code = code then t.saveQuarters rest
    else
      match name with
      | none => .error .quarterWithoutName
      | some name => do
        let t : Tables := { t with quarters := t.quarters ++ [⟨code, name⟩] }
        let (t, inserted) ← t.saveQuarters rest
        .ok (t, inserted + 1)

/-- The tables after subject areas, by code and name, are saved one by one, and how many were
inserted. -/
def saveSubjects (t : Tables) :
    List (Option String × Option String) → Except ConstraintFault (Tables × Nat)
  | [] => .ok (t, 0)
  | (none, _) :: _ => .error .subjectWithoutCode
  | (some code, name) :: rest =>
    if t.subjects.any fun area => area.code = code then t.saveSubjects rest
    else
      match name with
      | none => .error .subjectWithoutName
      | some name => do
        let t : Tables := { t with subjects := t.subjects ++ [⟨code, name⟩] }
        let (t, inserted) ← t.saveSubjects rest
        .ok (t, inserted + 1)

/-- The tables after the links of a quarter are saved one by one, and how many were inserted. -/
def saveLinksOf (t : Tables) (quarter : Option String) :
    List (Option String) → Except ConstraintFault (Tables × Nat)
  | [] => .ok (t, 0)
  | code :: rest =>
    match quarter, code with
    | none, _ => .error .linkWithoutQuarter
    | _, none => .error .linkWithoutSubject
    | some q, some subject =>
      if t.links.contains ⟨q, subject⟩ then t.saveLinksOf quarter rest
      else do
        let t : Tables := { t with links := t.links ++ [⟨q, subject⟩] }
        let (t, inserted) ← t.saveLinksOf quarter rest
        .ok (t, inserted + 1)

/-- The tables after a quarter is linked to the subject areas that have classes in it. -/
def saveLinks (t : Tables) (quarter : Option String) (codes : List (Option String)) :
    Except ConstraintFault (Tables × Nat) :=
  t.saveLinksOf quarter (firsts id codes)

/-! ## Course details -/

/-- A detail after a new value is given; the empty text is no value. -/
def newer (given : String) (old : Option String) : Option String :=
  if given.isEmpty then old else some given

/-- The stored course with new details. -/
def detailCourse (d : CourseDetails) (c : CourseRow) : CourseRow :=
  { c with
    name := newer d.name c.name
    units := newer d.units c.units
    level := newer d.level c.level
    description := newer d.description c.description }

/-- The id of the node of the course that has the details. -/
def detailsNodeId (d : CourseDetails) : String :=
  courseNodeId d.subject d.catalog

/-- The tables after details are saved one by one. -/
def saveDetailsOf : DetailsSaved → Tables → List CourseDetails →
    Except ConstraintFault (Tables × DetailsSaved)
  | saved, t, [] => .ok (t, saved)
  | saved, t, d :: ds =>
    let key := (d.subject, d.catalog)
    if (t.course? key).isSome then
      saveDetailsOf { saved with updated := saved.updated + 1 }
        (t.updateCourse key (detailCourse d)) ds
    else do
      let row : CourseRow :=
        { subject := d.subject, catalog := d.catalog, nodeId := detailsNodeId d }
      let t ← t.insertCourse (detailCourse d row)
      saveDetailsOf { saved with inserted := saved.inserted + 1 } t ds

/-- The tables after the details of courses are saved, each course with its node. -/
def saveDetails (t : Tables) (ds : List CourseDetails) :
    Except ConstraintFault (Tables × DetailsSaved) :=
  let (t, _) := t.saveNodes (ds.map fun d => courseNode (detailsNodeId d))
  saveDetailsOf {} t ds

end Tables

end Requisite
