import Requisite.Store.Session

/-!
# Transactions

How a save goes about its work, statement by statement. A session adds rows and changes without
sending them at once: they are pending until it looks at the store, flushes or commits, and are then
written in the order in which they were added. The store may refuse each of them. What is written is
seen by the later steps of the session, and lasts only from a commit on.

`Program` is the language of these steps, and `Program.run` carries a program out on a store. The
programs of the saves follow: what they look up and when, what they add for each element of a batch,
where they flush, and that they commit. `Session` says the same by the tables that a save leaves.
-/

namespace Requisite

open Schedule

/-! ## Statements -/

/-- What a session sends to the store. Rows of the last three kinds may lack what a row needs. -/
inductive Statement where
  | node (n : Node)
  | course (c : CourseRow)
  /-- The stored course of a key is changed. -/
  | update (key : String × String) (change : CourseRow → CourseRow)
  | relation (r : Relation)
  /-- A quarter, by code and name. -/
  | quarter (code name : Option String)
  /-- A subject area, by code and name. -/
  | subject (code name : Option String)
  | link (quarter subject : Option String)

/-- Why the store refuses a statement. -/
inductive Refusal where
  | constraint (fault : ConstraintFault)
  /-- A stored row has the primary key of the new one. -/
  | repeatedKey
  deriving DecidableEq, Repr

/-- The tables after a statement. The store refuses rows that lack something, that have the primary
key of a stored row, and courses whose node belongs to another course. -/
def Tables.execute (t : Tables) : Statement → Except Refusal Tables
  | .node n =>
    if n.id ∈ t.nodes.map Node.id then .error .repeatedKey
    else .ok { t with nodes := t.nodes ++ [n] }
  | .course c =>
    if (t.course? c.key).isSome then .error .repeatedKey
    else (t.insertCourse c).mapError .constraint
  | .update key change => .ok (t.updateCourse key change)
  | .relation r => .ok { t with relations := t.relations ++ [r] }
  | .quarter none _ => .error (.constraint .quarterWithoutCode)
  | .quarter (some _) none => .error (.constraint .quarterWithoutName)
  | .quarter (some code) (some name) =>
    if code ∈ t.quarters.map Quarter.code then .error .repeatedKey
    else .ok { t with quarters := t.quarters ++ [⟨code, name⟩] }
  | .subject none _ => .error (.constraint .subjectWithoutCode)
  | .subject (some _) none => .error (.constraint .subjectWithoutName)
  | .subject (some code) (some name) =>
    if code ∈ t.subjects.map SubjectArea.code then .error .repeatedKey
    else .ok { t with subjects := t.subjects ++ [⟨code, name⟩] }
  | .link none _ => .error (.constraint .linkWithoutQuarter)
  | .link (some _) none => .error (.constraint .linkWithoutSubject)
  | .link (some quarter) (some subject) =>
    if ⟨quarter, subject⟩ ∈ t.links then .error .repeatedKey
    else .ok { t with links := t.links ++ [⟨quarter, subject⟩] }

/-! ## Sessions at work -/

variable {ε α β : Type}

/-- Statements in order, until the store refuses one: the tables then, and the refusal. -/
def writeAll (execute : Tables → Statement → Except ε Tables) :
    Tables → List Statement → Tables × Option ε
  | t, [] => (t, none)
  | t, statement :: statements =>
    match execute t statement with
    | .ok t => writeAll execute t statements
    | .error refusal => (t, some refusal)

/-- A session in the middle of its work. -/
structure Transaction where
  /-- The tables as they were last committed. -/
  committed : Tables
  /-- The tables with all that was written since. -/
  written : Tables
  /-- What was added and is still to be written. -/
  pending : List Statement := []

namespace Transaction

/-- The session with one more statement to be written. -/
def add (w : Transaction) (statement : Statement) : Transaction :=
  { w with pending := w.pending ++ [statement] }

/-- The session after all that is pending is written, or as much of it as the store takes. -/
def flush (execute : Tables → Statement → Except ε Tables) (w : Transaction) :
    Transaction × Option ε :=
  ({ w with written := (writeAll execute w.written w.pending).1, pending := [] },
    (writeAll execute w.written w.pending).2)

/-- What comes after a flush, unless the store refuses a statement. -/
def afterFlush (execute : Tables → Statement → Except ε Tables) (w : Transaction)
    (next : Transaction → Transaction × Except ε α) : Transaction × Except ε α :=
  match w.flush execute with
  | (w, none) => next w
  | (w, some refusal) => (w, .error refusal)

/-- The session with what it has written lasting. -/
def commit (w : Transaction) : Transaction :=
  { w with committed := w.written }

end Transaction

/-- A session at the beginning of its work. -/
def Session.begin (s : Session) : Transaction where
  committed := s.committed
  written := s.working

/-! ## Programs -/

/-- The steps of a session, up to a result. -/
inductive Program (α : Type) where
  | done (result : α)
  /-- Flush, and go on by what the tables are. -/
  | look (next : Tables → Program α)
  | add (statement : Statement) (next : Program α)
  /-- Flush, and make it last. -/
  | commit (next : Program α)

namespace Program

/-- A program that goes on by the result of another. -/
def bind : Program α → (α → Program β) → Program β
  | .done result, next => next result
  | .look rest, next => .look fun t => (rest t).bind next
  | .add statement rest, next => .add statement (rest.bind next)
  | .commit rest, next => .commit (rest.bind next)

/-- A program with something made of its result. -/
def map (f : α → β) (p : Program α) : Program β :=
  p.bind fun result => .done (f result)

/-- Flush, and go on. -/
def flush (next : Program α) : Program α :=
  .look fun _ => next

/-- Add statements in order, and go on. -/
def addEach (statements : List Statement) (next : Program α) : Program α :=
  statements.foldr .add next

/-- A program that commits when it is done. -/
def committing (p : Program α) : Program α :=
  p.bind fun result => .commit (.done result)

/-- The session after a program is carried out on a store, or where the store refuses a
statement. -/
def run (execute : Tables → Statement → Except ε Tables) :
    Program α → Transaction → Transaction × Except ε α
  | .done result, w => (w, .ok result)
  | .look next, w => w.afterFlush execute fun w => (next w.written).run execute w
  | .add statement next, w => next.run execute (w.add statement)
  | .commit next, w => w.afterFlush execute fun w => next.run execute w.commit

/-! ## The graph -/

/-- Save nodes: look the ids up, add the new nodes, and flush. -/
def saveNodes (ns : List Node) : Program Saved :=
  .look fun t =>
    let unique := firsts Node.id ns
    let known := t.knownNodeIds (unique.map Node.id)
    let fresh := unique.filter fun n => !known.contains n.id
    addEach (fresh.map .node)
      (flush (.done { inserted := fresh.length, skipped := unique.length - fresh.length }))

/-- Save courses one by one: look each one up unless its key was seen in the batch, and add it or
change it. -/
def saveCoursesAfter : List (String × String) → Saved → List Course → Program Saved
  | _, saved, [] => flush (.done saved)
  | seen, saved, c :: cs =>
    if seen.contains c.key then
      saveCoursesAfter seen { saved with skipped := saved.skipped + 1 } cs
    else
      .look fun t =>
        if (t.course? c.key).isSome then
          .add (.update c.key (Tables.nameCourse c.name))
            (saveCoursesAfter (c.key :: seen) { saved with skipped := saved.skipped + 1 } cs)
        else
          .add (.course
              { subject := c.subject, catalog := c.catalog, nodeId := c.nodeId, name := c.name })
            (saveCoursesAfter (c.key :: seen) { saved with inserted := saved.inserted + 1 } cs)

/-- Save courses, after the node of each. -/
def saveCourses (cs : List Course) : Program Saved :=
  (saveNodes (cs.map fun c => Tables.courseNode c.nodeId)).bind fun _ => saveCoursesAfter [] {} cs

/-- Save relations: look up those from their sources, add the new ones, and flush. -/
def saveRelations (rs : List Relation) : Program Saved :=
  .look fun t =>
    let known := t.relationsFrom (firsts id (rs.map Relation.source))
    let fresh := Tables.newRelations known rs
    addEach (fresh.map .relation)
      (flush (.done { inserted := fresh.length, skipped := rs.length - fresh.length }))

/-- Save a graph, part by part. -/
def saveGraph (ns : List Node) (cs : List Course) (rs : List Relation) : Program GraphSaved :=
  (saveNodes ns).bind fun nodes =>
    (saveCourses cs).bind fun courses =>
      (saveRelations rs).map fun relations => { nodes, courses, relations }

/-! ## Quarters, subject areas and links -/

/-- Insert items one by one: look each one up, and add its row unless it is known. With `flushes`
each row is flushed when it is added. -/
def insertEach (known : Tables → β → Bool) (row : β → Statement) (flushes : Bool) :
    Nat → List β → Program Nat
  | inserted, [] => .done inserted
  | inserted, item :: items =>
    .look fun t =>
      if known t item then insertEach known row flushes inserted items
      else
        let rest := insertEach known row flushes (inserted + 1) items
        .add (row item) (if flushes then flush rest else rest)

/-- Save quarters, by code and name. -/
def saveQuarters (pairs : List (Option String × Option String)) : Program Nat :=
  insertEach (fun t pair => t.quarters.any fun q => pair.1 = some q.code)
    (fun pair => .quarter pair.1 pair.2) true 0 pairs

/-- Save subject areas, by code and name. -/
def saveSubjects (pairs : List (Option String × Option String)) : Program Nat :=
  insertEach (fun t pair => t.subjects.any fun area => pair.1 = some area.code)
    (fun pair => .subject pair.1 pair.2) true 0 pairs

/-- Link a quarter to subject areas. -/
def saveLinks (quarter : Option String) (codes : List (Option String)) : Program Nat :=
  insertEach
    (fun t code => t.links.any fun l => quarter = some l.quarter ∧ code = some l.subject)
    (fun code => .link quarter code) false 0 (firsts id codes)

/-! ## Course details -/

/-- Save details one by one: look the course up, change it or add it, and flush. -/
def saveDetailsOf : DetailsSaved → List CourseDetails → Program DetailsSaved
  | saved, [] => .done saved
  | saved, d :: ds =>
    .look fun t =>
      if (t.course? (d.subject, d.catalog)).isSome then
        .add (.update (d.subject, d.catalog) (Tables.detailCourse d))
          (flush (saveDetailsOf { saved with updated := saved.updated + 1 } ds))
      else
        .add (.course (Tables.detailCourse d
            { subject := d.subject, catalog := d.catalog, nodeId := Tables.detailsNodeId d }))
          (flush (saveDetailsOf { saved with inserted := saved.inserted + 1 } ds))

/-- Save the details of courses, after the node of each. -/
def saveDetails (ds : List CourseDetails) : Program DetailsSaved :=
  (saveNodes (ds.map fun d => Tables.courseNode (Tables.detailsNodeId d))).bind fun _ =>
    saveDetailsOf {} ds

end Program

end Requisite
