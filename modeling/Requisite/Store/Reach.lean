import Requisite.FirstArrival
import Requisite.Store.Tables

/-!
# What a course needs, and what depends on it

Two walks over the stored relations. The requisites of a course are what is reached from its node;
other courses on the way are ends, unless the walk is to go through them. The dependents of a node
are the courses from which it is reached, walking against the relations, again with courses as ends
or not. Both walks go breadth first and meet every node once.
-/

namespace Requisite

namespace Tables

/-- Whether some course has the node. -/
def isCourseNode (t : Tables) (id : String) : Bool :=
  (t.courseOfNode? id).isSome

/-- A walk in progress. -/
structure Walk where
  /-- The ids still to leave from. -/
  queue : List String
  /-- The ids met so far. -/
  seen : List String
  /-- The ids met after the first, in order. -/
  met : List String
  /-- The relations out of the ids left so far. -/
  relations : List Relation
  deriving Repr

/-- The ids of a list that a walk has not met, each once. -/
def Walk.fresh (w : Walk) (ids : List String) : List String :=
  (firsts id ids).filter fun id => !w.seen.contains id

/-- Whether a walk goes on through a node. -/
def goesThrough (t : Tables) (transitive : Bool) (id : String) : Bool :=
  transitive || !t.isCourseNode id

/-- The walk after it leaves the first id of its queue, of which `queue` remains, by the relations
`rs`. They lead to the ids `ids`, and it goes on through those of them that it meets here first and
that `goesOn` allows. -/
def Walk.leave (goesOn : String → Bool) (w : Walk) (queue : List String) (rs : List Relation)
    (ids : List String) : Walk :=
  let fresh := w.fresh ids
  { queue := queue ++ fresh.filter goesOn
    seen := w.seen ++ fresh
    met := w.met ++ fresh
    relations := w.relations ++ rs }

/-- The relations from a node. -/
def outgoing (t : Tables) (id : String) : List Relation :=
  t.relations.filter fun r => r.source = id

/-- The relations to a node. -/
def incoming (t : Tables) (id : String) : List Relation :=
  t.relations.filter fun r => r.target = id

/-- A walk along the relations, leaving from at most `fuel` ids. -/
def forward (t : Tables) (transitive : Bool) : Nat → Walk → Walk
  | 0, w => w
  | fuel + 1, w =>
    match w.queue with
    | [] => w
    | id :: queue =>
      let rs := t.outgoing id
      forward t transitive fuel
        (w.leave (t.goesThrough transitive) queue rs (rs.map Relation.target))

/-- A walk against the relations, leaving from at most `fuel` ids. -/
def backward (t : Tables) (transitive : Bool) : Nat → Walk → Walk
  | 0, w => w
  | fuel + 1, w =>
    match w.queue with
    | [] => w
    | id :: queue =>
      let rs := t.incoming id
      backward t transitive fuel
        (w.leave (t.goesThrough transitive) queue rs (rs.map Relation.source))

/-- A walk that has met one id and not left from it. -/
def Walk.start (id : String) : Walk :=
  { queue := [id], seen := [id], met := [], relations := [] }

/-- The number of ids that a walk can leave from: one for each relation, and the first. -/
def walkLength (t : Tables) : Nat :=
  t.relations.length + 1

/-- What a course needs. -/
structure Requisites where
  course : CourseRow
  /-- The node that stands for all requisites of the course. -/
  root : Option String
  nodes : List Node
  relations : List Relation
  deriving DecidableEq, Repr

/-- What the course with a key needs, or `none` where there is no such course. -/
def requisitesFor (t : Tables) (key : String × String) (transitive : Bool) : Option Requisites :=
  (t.course? key).map fun course =>
    let w := t.forward transitive t.walkLength (.start course.nodeId)
    { course
      root := w.relations.head?.map Relation.target
      nodes := w.met.filterMap t.node?
      relations := w.relations }

/-- The order of stored courses by key. -/
def courseLe (a b : CourseRow) : Bool :=
  a.subject < b.subject || (a.subject == b.subject && a.catalog ≤ b.catalog)

/-- The courses that depend on the node with an id, by key, or `none` where there is no such
node. -/
def dependentsOf (t : Tables) (id : String) (transitive : Bool) : Option (List CourseRow) :=
  (t.node? id).map fun _ =>
    let w := t.backward transitive t.walkLength (.start id)
    (w.met.filterMap t.courseOfNode?).mergeSort courseLe

end Tables

end Requisite
