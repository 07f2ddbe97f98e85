import Requisite.Graph
import Requisite.Quarter
import Requisite.Subject

/-!
# The tables of the store

Six tables hold all that was ever saved. Each is a list of rows in the order in which they were
inserted. Node ids, the keys of courses and the node ids of courses are unique, and so are the codes
of quarters and subject areas and the links between them; a relation is known by all its columns.
-/

namespace Requisite

/-- A course as it is stored, with the details that may be known of it. -/
structure CourseRow where
  subject : String
  catalog : String
  /-- The id of the node of the course. -/
  nodeId : String
  name : Option String := none
  units : Option String := none
  level : Option String := none
  description : Option String := none
  deriving DecidableEq, Repr

/-- What tells stored courses apart. -/
def CourseRow.key (c : CourseRow) : String × String :=
  (c.subject, c.catalog)

/-- A subject area that has classes in a quarter. -/
structure Link where
  quarter : String
  subject : String
  deriving DecidableEq, Repr

/-- The contents of the store. -/
structure Tables where
  nodes : List Node := []
  courses : List CourseRow := []
  relations : List Relation := []
  quarters : List Quarter := []
  subjects : List SubjectArea := []
  links : List Link := []
  deriving DecidableEq, Repr

namespace Tables

/-- The stored node with an id. -/
def node? (t : Tables) (id : String) : Option Node :=
  t.nodes.find? fun n => n.id = id

/-- The stored course with a key. -/
def course? (t : Tables) (key : String × String) : Option CourseRow :=
  t.courses.find? fun c => c.key = key

/-- The stored course whose node has an id. -/
def courseOfNode? (t : Tables) (id : String) : Option CourseRow :=
  t.courses.find? fun c => c.nodeId = id

/-! ## Listings -/

/-- The quarters in the order of the calendar; those of equal rank as they were inserted. -/
def listQuarters (t : Tables) : List Quarter :=
  t.quarters.mergeSort fun a b => (quarterRank a.code).le (quarterRank b.code)

/-- The subject areas by code. -/
def listSubjects (t : Tables) : List SubjectArea :=
  t.subjects.mergeSort fun a b => a.code ≤ b.code

/-- The subject areas that have classes in a quarter, by code. -/
def listQuarterSubjects (t : Tables) (quarter : String) : List SubjectArea :=
  t.listSubjects.filter fun area => t.links.contains ⟨quarter, area.code⟩

end Tables

/-! ## Rows in a line -/

/-- A stored node in a line. -/
def Node.summary (n : Node) : String := s!"<Node {n.kind.word} {n.id}>"

/-- A stored course in a line. -/
def CourseRow.summary (c : CourseRow) : String := s!"<Course {c.subject} {c.catalog}>"

/-- A stored relation in a line. -/
def Relation.summary (r : Relation) : String := s!"<Relation {r.source} -> {r.target}>"

/-- A stored quarter in a line. -/
def Quarter.summary (q : Quarter) : String := s!"<Quarter {q.code}>"

/-- A stored subject area in a line. -/
def SubjectArea.summary (a : SubjectArea) : String := s!"<SubjectArea {a.code}>"

/-- A link of a quarter and a subject area in a line. -/
def Link.summary (l : Link) : String := s!"<QuarterSubjectArea {l.quarter} {l.subject}>"

end Requisite
