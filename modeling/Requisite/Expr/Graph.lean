import Requisite.Expr.Parser
import Requisite.FirstArrival

/-!
# The graph of an expression

Reading an expression records every leaf where it stands. A chain directly inside brackets is stored
where its bracket closes, under its bracketed id; any other chain waits until the chain around it is
stored, or the end of the expression. Storing a chain records its node, and then for each member in
turn the waiting chain that it may be and the relation to it. Last comes the relation from the owner
to the root. Of what is recorded twice, the first stays.
-/

namespace Requisite

namespace Expr

/-! ## Leaves -/

mutual

/-- The leaves of an expression, in the order in which they are written. -/
def leaves : Expr → List Leaf
  | .leaf l => [l]
  | .group content => leaves content
  | .chain _ members => leavesOf members

/-- The leaves of the members of a chain, in order. -/
def leavesOf : List Expr → List Leaf
  | [] => []
  | m :: members => leaves m ++ leavesOf members

end

/-! ## Nodes -/

/-- The nodes of the chains that wait among the members of a chain, in the order in which they are
stored. -/
def waitingNodes : List Expr → List Node
  | [] => []
  | .chain op inner :: members =>
    ⟨canonicalId (.chain op inner), op.kind⟩ :: (waitingNodes inner ++ waitingNodes members)
  | _ :: members => waitingNodes members

/-- The nodes recorded when an expression is stored under `id`: none unless it is a chain. -/
@[inline] def storedNodes (id : String) : Expr → List Node
  | .chain op members => ⟨id, op.kind⟩ :: waitingNodes members
  | _ => []

mutual

/-- The nodes recorded while an expression is read. -/
def readNodes : Expr → List Node
  | .leaf l => [⟨l.id, .value⟩]
  | .group content => readNodes content ++ storedNodes (canonicalId (.group content)) content
  | .chain _ members => readNodesOf members

/-- The nodes recorded while the members of a chain are read. -/
def readNodesOf : List Expr → List Node
  | [] => []
  | m :: members => readNodes m ++ readNodesOf members

end

/-! ## Relations -/

/-- The relations recorded for the members of the chain stored under `source`, each after those of
the waiting chain that the member may be. -/
def memberRelations (source : String) : List Expr → List Relation
  | [] => []
  | .chain op inner :: members =>
    memberRelations (canonicalId (.chain op inner)) inner ++
      edge source (.chain op inner) :: memberRelations source members
  | m :: members => edge source m :: memberRelations source members

/-- The relations recorded when an expression is stored under `id`: none unless it is a chain. -/
@[inline] def storedRelations (id : String) : Expr → List Relation
  | .chain _ members => memberRelations id members
  | _ => []

mutual

/-- The relations recorded while an expression is read. -/
def readRelations : Expr → List Relation
  | .leaf _ => []
  | .group content =>
    readRelations content ++ storedRelations (canonicalId (.group content)) content
  | .chain _ members => readRelationsOf members

/-- The relations recorded while the members of a chain are read. -/
def readRelationsOf : List Expr → List Relation
  | [] => []
  | m :: members => readRelations m ++ readRelationsOf members

end

/-! ## The whole -/

/-- The graph of an expression for the node `owner` that has it as its requisite. -/
def graph (owner : String) (e : Expr) : Graph where
  nodes := firsts Node.id (e.readNodes ++ e.storedNodes e.canonicalId)
  courses := firsts Course.key (e.leaves.filterMap Leaf.course?)
  relations :=
    firsts id (e.readRelations ++ e.storedRelations e.canonicalId ++
      [{ source := owner, target := e.nodeId }])
  root := some e.nodeId

end Expr

/-- The graph that a written expression gives its owner. The empty text is no expression and stands
for no requisites. -/
def Graph.ofText (owner expression : String) : Except ExprFault Graph :=
  if expression.isEmpty then .ok {} else (Expr.parse expression).map (Expr.graph owner)

end Requisite
