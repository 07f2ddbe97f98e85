import Requisite.Expr.Basic
import Requisite.Proofs.Leaf

/-!
# Canonical ids

The canonical id of an expression is written in front of what follows, without a separator.
`canonicalId_leaf`, `canonicalId_group` and `canonicalId_chain` say what is written, and
`NodeKind.ofId` reads back what an id can say by itself: whether it stands for a chain, and for
which connective.
-/

namespace Requisite

namespace Expr

/-! ## Writing ids -/

mutual

/-- What follows an id does not change it. -/
theorem writeId_append (e : Expr) (xs rest : List Char) :
    writeId e (xs ++ rest) = writeId e xs ++ rest := by
  cases e with
  | leaf l => simp [writeId]
  | group content =>
    have ih := writeId_append content (')' :: xs) rest
    simpa [writeId] using ih
  | chain op members => simp [writeId, writeIds_append members xs rest]

/-- What follows the ids of members does not change them. -/
theorem writeIds_append (members : List Expr) (xs rest : List Char) :
    writeIds members (xs ++ rest) = writeIds members xs ++ rest := by
  cases members with
  | nil => rfl
  | cons m members =>
    rw [writeIds, writeIds_append members xs rest, writeId_append m _ rest, writeIds]

end

/-- The characters of a canonical id are those that the expression writes. -/
theorem toList_canonicalId (e : Expr) : e.canonicalId.toList = writeId e [] := by
  rw [canonicalId, String.toList_ofList]

/-- An expression is written as its canonical id, and what follows. -/
theorem writeId_eq (e : Expr) (rest : List Char) :
    writeId e rest = e.canonicalId.toList ++ rest := by
  rw [toList_canonicalId, ← writeId_append, List.nil_append]

/-- Members are written as their canonical ids one after the other, and what follows. -/
theorem writeIds_eq (members : List Expr) (rest : List Char) :
    writeIds members rest = (members.flatMap fun m => m.canonicalId.toList) ++ rest := by
  induction members with
  | nil => rfl
  | cons m members ih => rw [writeIds, ih, writeId_eq, List.flatMap_cons, List.append_assoc]

/-- The canonical id of a leaf is its id. -/
@[simp] theorem canonicalId_leaf (l : Leaf) : (leaf l).canonicalId = l.id := by
  simp [canonicalId, writeId]

/-- The canonical id of a group writes the brackets. -/
@[simp] theorem canonicalId_group (content : Expr) :
    (group content).canonicalId = "(" ++ content.canonicalId ++ ")" := by
  rw [← String.toList_inj, toList_canonicalId, writeId, writeId_eq]
  simp

/-- The canonical id of a chain writes the connective before its members, and nothing between
them. -/
theorem canonicalId_chain (op : Connective) (members : List Expr) :
    (chain op members).canonicalId =
      String.singleton op.symbol ++ String.join (members.map canonicalId) := by
  rw [← String.toList_inj, toList_canonicalId, writeId, writeIds_eq]
  simp [String.toList_join, List.flatMap_map]

/-! ## Ids of nodes -/

/-- The expression is a chain that stands in no brackets. -/
def isChain : Expr → Bool
  | .leaf _ => false
  | .group _ => false
  | .chain _ _ => true

/-- Brackets count only directly around a chain. -/
theorem nodeId_group (content : Expr) :
    (group content).nodeId =
      if content.isChain then (group content).canonicalId else content.nodeId := by
  cases content <;> rfl

/-- The id of a node is no longer than the canonical id, of which it may leave out brackets. -/
theorem length_nodeId_le (e : Expr) : e.nodeId.length ≤ e.canonicalId.length := by
  induction e with
  | leaf l => simp [nodeId]
  | group content ih =>
    rw [nodeId_group]
    split
    · exact Nat.le_refl _
    · have hlength : (group content).canonicalId.length = 1 + content.canonicalId.length + 1 := by
        rw [canonicalId_group, String.length_append, String.length_append]
        rfl
      omega
  | chain op members ih => exact Nat.le_refl _

end Expr

/-! ## The kind of a node, read off its id -/

/-- The kind of the node that an id names: a connective at its start, or after a bracket there,
stands for a chain. -/
def NodeKind.ofId (id : String) : NodeKind :=
  match id.toList with
  | '&' :: _ | '(' :: '&' :: _ => .and
  | '|' :: _ | '(' :: '|' :: _ => .or
  | _ => .value

/-- An id that begins with no bracket and no connective stands for no chain. -/
theorem NodeKind.ofId_of_plainStart {id : String} (h : PlainStart id) :
    NodeKind.ofId id = .value := by
  unfold PlainStart at h
  unfold NodeKind.ofId
  split
  all_goals simp_all [structural?]

/-- The canonical id of a chain names a node of its connective. -/
theorem NodeKind.ofId_chain (op : Connective) (members : List Expr) :
    NodeKind.ofId (Expr.chain op members).canonicalId = op.kind := by
  unfold NodeKind.ofId
  rw [Expr.toList_canonicalId, Expr.writeId]
  cases op <;> rfl

/-- So does the canonical id of a chain in brackets. -/
theorem NodeKind.ofId_group_chain (op : Connective) (members : List Expr) :
    NodeKind.ofId (Expr.group (.chain op members)).canonicalId = op.kind := by
  unfold NodeKind.ofId
  rw [Expr.toList_canonicalId, Expr.writeId, Expr.writeId]
  cases op <;> rfl

end Requisite
