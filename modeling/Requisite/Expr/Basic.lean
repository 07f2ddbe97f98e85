import Requisite.Leaf

/-!
# Expressions

A requisite expression is a leaf, a bracketed expression, or a chain of members under one
connective. Its canonical id is a text that writes the chain's connective before its members and
keeps the brackets, so equal subexpressions of different courses share a node.
-/

namespace Requisite

/-- A requisite expression. -/
inductive Expr where
  | leaf (l : Leaf)
  /-- An expression in brackets. -/
  | group (content : Expr)
  /-- Members joined by one connective; a parsed chain has at least two. -/
  | chain (op : Connective) (members : List Expr)
  deriving Repr

namespace Expr

/-- To prove a property of every expression, prove it of leaves, of groups from their content, and
of chains from their members. -/
@[elab_as_elim, induction_eliminator]
theorem induct {motive : Expr → Prop} (leaf : ∀ l, motive (.leaf l))
    (group : ∀ content, motive content → motive (.group content))
    (chain : ∀ op members, (∀ m ∈ members, motive m) → motive (.chain op members)) (e : Expr) :
    motive e :=
  @Expr.rec motive (fun members => ∀ m ∈ members, motive m) leaf group chain
    (fun _ hm => nomatch hm)
    (fun _ _ head tail m hm => (List.mem_cons.1 hm).elim (fun h => h ▸ head) (tail m)) e

mutual

/-- The canonical id of an expression, followed by `rest`. -/
def writeId : Expr → List Char → List Char
  | .leaf l, rest => l.id.toList ++ rest
  | .group content, rest => '(' :: writeId content (')' :: rest)
  | .chain op members, rest => op.symbol :: writeIds members rest

/-- The canonical ids of the members of a chain, followed by `rest`. -/
def writeIds : List Expr → List Char → List Char
  | [], rest => rest
  | m :: members, rest => writeId m (writeIds members rest)

end

/-- The canonical id of an expression. -/
def canonicalId (e : Expr) : String :=
  String.ofList (writeId e [])

/-- The id of the node that stands for an expression. A chain directly inside brackets has its node
under the bracketed id; further brackets, and brackets around a leaf, add nothing. -/
def nodeId : Expr → String
  | .leaf l => l.id
  | .group (.chain op members) => canonicalId (.group (.chain op members))
  | .group content => nodeId content
  | .chain op members => canonicalId (.chain op members)

/-- The flags on an edge into an expression: those of a leaf, in any number of brackets. -/
def edgeFlags : Expr → Option Flags
  | .leaf l => some l.flags
  | .group content => edgeFlags content
  | .chain _ _ => none

/-- The relation from the node `source` to the node of its member `m`. -/
def edge (source : String) (m : Expr) : Relation :=
  .between source m.nodeId m.edgeFlags

end Expr

end Requisite
