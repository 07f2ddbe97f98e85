/-!
# The requisite graph

A course hangs on a graph of requirements. Its nodes are single requirements and the conjunctions
and disjunctions over them; its relations are directed edges, which carry how strictly a
requirement binds, so that one node may be enforced for one course and advisory for another.
-/

namespace Requisite

/-- What a node is: a single requirement, or all or any of the targets of its relations. -/
inductive NodeKind where
  | value
  | and
  | or
  deriving DecidableEq, Repr

/-- The word for a kind of node. -/
def NodeKind.word : NodeKind → String
  | .value => "value"
  | .and => "and"
  | .or => "or"

/-- The kind of node that a word names. -/
def NodeKind.ofWord? : String → Option NodeKind
  | "value" => some .value
  | "and" => some .and
  | "or" => some .or
  | _ => none

/-- The two connectives of an expression. -/
inductive Connective where
  | and
  | or
  deriving DecidableEq, Repr

/-- The character of a connective in a written expression and in ids. -/
def Connective.symbol : Connective → Char
  | .and => '&'
  | .or => '|'

/-- The kind of node that a chain of the connective becomes. -/
def Connective.kind : Connective → NodeKind
  | .and => .and
  | .or => .or

/-- A node of the graph, known by its id. -/
structure Node where
  id : String
  kind : NodeKind
  deriving DecidableEq, Repr

/-- What a requirement says about itself besides its id. -/
structure Flags where
  /-- The requirement is a course, and not a test or a permission. -/
  isCourse : Bool
  /-- Enrolment is refused without it. -/
  isEnforced : Bool
  /-- It may be met before the course. -/
  isPrereq : Bool
  /-- It may be met along with the course. -/
  isCoreq : Bool
  /-- The least grade that meets it, or the empty text. -/
  minimumGrade : String
  deriving DecidableEq, Repr

/-- A directed edge of the graph. The attributes are those of the requirement at its target, and
are absent where the target is no single requirement or the source is a course. -/
structure Relation where
  source : String
  target : String
  enforced : Option Bool := none
  prereq : Option Bool := none
  coreq : Option Bool := none
  minimumGrade : Option String := none
  deriving DecidableEq, Repr

/-- The edge from `source` to `target` with the attributes of a requirement, where one is given. -/
def Relation.between (source target : String) : Option Flags → Relation
  | none => { source, target }
  | some flags =>
    { source, target
      enforced := some flags.isEnforced
      prereq := some flags.isPrereq
      coreq := some flags.isCoreq
      minimumGrade := some flags.minimumGrade }

/-- The edge starts at its source, whatever its attributes. -/
@[simp] theorem Relation.source_between (source target : String) (flags : Option Flags) :
    (Relation.between source target flags).source = source := by
  cases flags <;> rfl

/-- It leads to its target. -/
@[simp] theorem Relation.target_between (source target : String) (flags : Option Flags) :
    (Relation.between source target flags).target = target := by
  cases flags <;> rfl

/-- The id of the node of a course. -/
def courseNodeId (subject catalog : String) : String :=
  subject ++ "#" ++ catalog

/-- A course as an expression or a listing names it. -/
structure Course where
  /-- The code of the subject area. -/
  subject : String
  /-- The catalog number within the subject area. -/
  catalog : String
  name : Option String := none
  deriving DecidableEq, Repr

/-- The id of the node of the course. -/
def Course.nodeId (c : Course) : String :=
  courseNodeId c.subject c.catalog

/-- What tells courses apart. -/
def Course.key (c : Course) : String × String :=
  (c.subject, c.catalog)

/-- The course as a reader writes it. -/
def Course.label (c : Course) : String :=
  c.subject ++ " " ++ c.catalog

/-- All that the expression of one course contributes: its nodes, the courses it names, its
relations, and the node that stands for the whole, if there is one. -/
structure Graph where
  nodes : List Node := []
  courses : List Course := []
  relations : List Relation := []
  root : Option String := none
  deriving DecidableEq, Repr

/-- The graph of a course without requisites. -/
def Graph.isEmpty (g : Graph) : Bool :=
  g.root.isNone

end Requisite
