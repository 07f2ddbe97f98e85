import Requisite.FirstArrival
import Requisite.Notice

/-!
# Accumulating graphs

A run collects the graphs of all courses in one accumulator: nodes by id, courses by key, relations
by all that they hold. What arrives first stays; a later record of a course only gives it a name
that it lacks. Workers share the accumulator, and each change is one of three atomic steps, so a run
is some interleaving of the steps of its workers.
-/

namespace Requisite

/-- All that a run has collected so far, each part in order of first arrival. -/
@[ext]
structure Accumulator where
  nodes : List Node := []
  courses : List Course := []
  relations : List Relation := []
  deriving DecidableEq, Repr

namespace Accumulator

/-- One atomic change: some nodes, some courses or some relations arrive. -/
inductive Step where
  | nodes (ns : List Node)
  | courses (cs : List Course)
  | relations (rs : List Relation)
  deriving DecidableEq, Repr

/-- The course with the name `name`, where it has none and `name` is not empty. -/
def nameCourse (name : Option String) (c : Course) : Course :=
  if c.name = none ∧ name ≠ some "" then { c with name } else c

/-- The courses after one more arrives. -/
def addCourse (cs : List Course) (c : Course) : List Course :=
  if cs.any fun d => decide (d.key = c.key) then
    cs.map fun d => if d.key = c.key then nameCourse c.name d else d
  else cs ++ [c]

/-- The accumulator after one step. -/
def apply (acc : Accumulator) : Step → Accumulator
  | .nodes ns => { acc with nodes := addAll Node.id acc.nodes ns }
  | .courses cs => { acc with courses := cs.foldl addCourse acc.courses }
  | .relations rs => { acc with relations := addAll id acc.relations rs }

/-- The report on a node that arrives with another kind than the one known for its id. -/
def conflict? (known : List Node) (n : Node) : Option Notice :=
  match known.find? fun m => m.id = n.id with
  | some m => if m.kind = n.kind then none else some (.nodeConflict n.id m.kind n.kind)
  | none => none

/-- The reports on nodes that arrive one by one. -/
def conflicts (known : List Node) : List Node → List Notice
  | [] => []
  | n :: ns => (conflict? known n).toList ++ conflicts (addNew Node.id known n) ns

/-- What one step reports. -/
def stepNotices (acc : Accumulator) : Step → List Notice
  | .nodes ns => conflicts acc.nodes ns
  | _ => []

/-- The accumulator after a sequence of steps. -/
def run (acc : Accumulator) (steps : List Step) : Accumulator :=
  steps.foldl apply acc

/-- What a sequence of steps reports, in order. -/
def notices (acc : Accumulator) : List Step → List Notice
  | [] => []
  | step :: steps => stepNotices acc step ++ notices (acc.apply step) steps

/-- The steps that record a course itself: the node that stands for it, and its record. -/
def bindSteps (c : Course) : List Step :=
  [.nodes [⟨c.nodeId, .value⟩], .courses [c]]

/-- The steps that record the graph of a course. -/
def mergeSteps (g : Graph) : List Step :=
  [.nodes g.nodes, .courses g.courses, .relations g.relations]

/-- The accumulator after a course is recorded. -/
def bindCourse (acc : Accumulator) (c : Course) : Accumulator :=
  acc.run (bindSteps c)

/-- The accumulator after a graph is recorded. -/
def merge (acc : Accumulator) (g : Graph) : Accumulator :=
  acc.run (mergeSteps g)

/-- A run of two sequences is the run of the second after the first. -/
theorem run_append (acc : Accumulator) (xs ys : List Step) :
    acc.run (xs ++ ys) = (acc.run xs).run ys := by
  simp [run]

end Accumulator

end Requisite
