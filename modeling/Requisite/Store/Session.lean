import Requisite.Store.Save

/-!
# Sessions

A session works on the store. What it writes is seen by its own later steps at once, and lasts from
the next commit on; a step that fails takes back all that was not committed.
-/

namespace Requisite

/-- A store at work: the tables as they were last committed, and as they are now. -/
structure Session where
  committed : Tables := {}
  working : Tables := {}
  deriving DecidableEq, Repr

namespace Session

/-- The session with all its work lasting. -/
def commit (s : Session) : Session :=
  { s with committed := s.working }

/-- The session without the work that is not committed. -/
def rollback (s : Session) : Session :=
  { s with working := s.committed }

/-- A step that writes and does not commit. -/
def write {α : Type} (s : Session) (step : Tables → Except ConstraintFault (Tables × α)) :
    Session × Except ConstraintFault α :=
  match step s.working with
  | .ok (t, a) => ({ s with working := t }, .ok a)
  | .error fault => (s.rollback, .error fault)

/-- A step that writes and commits. -/
def transact {α : Type} (s : Session) (step : Tables → Except ConstraintFault (Tables × α)) :
    Session × Except ConstraintFault α :=
  match s.write step with
  | (s, .ok a) => (s.commit, .ok a)
  | (s, .error fault) => (s, .error fault)

/-- Save nodes, without a commit. -/
def saveNodes (s : Session) (ns : List Node) : Session × Except ConstraintFault Saved :=
  s.write fun t => .ok (t.saveNodes ns)

/-- Save courses, without a commit. -/
def saveCourses (s : Session) (cs : List Course) : Session × Except ConstraintFault Saved :=
  s.write fun t => t.saveCourses cs

/-- Save relations, without a commit. -/
def saveRelations (s : Session) (rs : List Relation) : Session × Except ConstraintFault Saved :=
  s.write fun t => .ok (t.saveRelations rs)

/-- Save a graph. -/
def saveGraph (s : Session) (ns : List Node) (cs : List Course) (rs : List Relation) :
    Session × Except ConstraintFault GraphSaved :=
  s.transact fun t => t.saveGraph ns cs rs

/-- Save quarters, by code and name. -/
def saveQuarters (s : Session) (pairs : List (Option String × Option String)) :
    Session × Except ConstraintFault Nat :=
  s.transact fun t => t.saveQuarters pairs

/-- Save subject areas, by code and name. -/
def saveSubjects (s : Session) (pairs : List (Option String × Option String)) :
    Session × Except ConstraintFault Nat :=
  s.transact fun t => t.saveSubjects pairs

/-- Link a quarter to subject areas. -/
def saveLinks (s : Session) (quarter : Option String) (codes : List (Option String)) :
    Session × Except ConstraintFault Nat :=
  s.transact fun t => t.saveLinks quarter codes

/-- Save the details of courses. -/
def saveDetails (s : Session) (ds : List Schedule.CourseDetails) :
    Session × Except ConstraintFault DetailsSaved :=
  s.transact fun t => t.saveDetails ds

end Session

end Requisite
