import Mathlib.Data.Finset.Card
import Requisite.Proofs.Store.Again

/-!
# Batches save what saving row by row does

Nodes and relations are saved in batches: known rows are looked up once, in slices, before the first
is inserted, and a batch keeps repeats within itself apart by itself. The plain way is to take the
elements one at a time and append each unless it is there (`Tables.insertNode`,
`Tables.insertRelation`). Both leave the same tables, for batches of any length and any tables, and
the counts are those of the plain way (`Session.saves_row_by_row`).
-/

namespace Requisite

/-- There are as many first arrivals as there are different keys. -/
theorem length_firsts {α κ : Type} [DecidableEq κ] (key : α → κ) (ys : List α) :
    (firsts key ys).length = (ys.map key).toFinset.card := by
  have hkeys : ((firsts key ys).map key).toFinset = (ys.map key).toFinset := by
    ext k
    rw [List.mem_toFinset, List.mem_toFinset]
    exact mem_map_firsts
  have hapart : ((firsts key ys).map key).toFinset.card = ((firsts key ys).map key).length :=
    List.toFinset_card_of_nodup (nodup_map_firsts key ys)
  rw [← hkeys, hapart, List.length_map]

namespace Tables

/-! ## The plain way -/

/-- The tables with the node at the end of its table, unless its id is stored. -/
def insertNode (t : Tables) (n : Node) : Tables :=
  if n.id ∈ t.nodes.map Node.id then t else { t with nodes := t.nodes ++ [n] }

/-- The tables with the relation at the end of its table, unless one that has the same in every
column is stored. -/
def insertRelation (t : Tables) (r : Relation) : Tables :=
  if r ∈ t.relations then t else { t with relations := t.relations ++ [r] }

/-- Nodes that are inserted one by one arrive by their ids. -/
theorem foldl_insertNode (t : Tables) (ns : List Node) :
    ns.foldl insertNode t = { t with nodes := addAll Node.id t.nodes ns } := by
  induction ns generalizing t with
  | nil => rfl
  | cons n ns ih =>
    have hstep : insertNode t n = { t with nodes := addNew Node.id t.nodes n } := by
      by_cases h : n.id ∈ t.nodes.map Node.id
      · rw [insertNode, if_pos h, addNew_of_mem h]
      · rw [insertNode, if_neg h, addNew_of_not_mem h]
    rw [List.foldl_cons, ih, hstep]
    rfl

/-- Relations that are inserted one by one arrive by all that they hold. -/
theorem foldl_insertRelation (t : Tables) (rs : List Relation) :
    rs.foldl insertRelation t = { t with relations := addAll id t.relations rs } := by
  induction rs generalizing t with
  | nil => rfl
  | cons r rs ih =>
    have hstep : insertRelation t r = { t with relations := addNew id t.relations r } := by
      by_cases h : r ∈ t.relations
      · rw [insertRelation, if_pos h, addNew_id_of_mem h]
      · rw [insertRelation, if_neg h, addNew_id_of_not_mem h]
    rw [List.foldl_cons, ih, hstep]
    rfl

/-! ## Counts -/

/-- Of the nodes of a batch, one for each id is inserted or skipped. -/
theorem inserted_add_skipped_saveNodes (t : Tables) (ns : List Node) :
    (t.saveNodes ns).2.inserted + (t.saveNodes ns).2.skipped =
      (ns.map Node.id).toFinset.card := by
  have hle := List.length_filter_le
    (fun n => !(t.knownNodeIds ((firsts Node.id ns).map Node.id)).contains n.id)
    (firsts Node.id ns)
  rw [← length_firsts]
  exact Nat.add_sub_of_le hle

/-- No more relations are new than there are in the batch. -/
theorem length_newRelations_le (known rs : List Relation) :
    (newRelations known rs).length ≤ rs.length := by
  induction rs generalizing known with
  | nil => exact Nat.le_refl 0
  | cons r rs ih =>
    rw [newRelations, List.length_cons]
    split
    · exact Nat.le_succ_of_le (ih known)
    · exact Nat.succ_le_succ (ih _)

/-- Every relation of a batch is inserted or skipped. -/
theorem inserted_add_skipped_saveRelations (t : Tables) (rs : List Relation) :
    (t.saveRelations rs).2.inserted + (t.saveRelations rs).2.skipped = rs.length :=
  Nat.add_sub_of_le (length_newRelations_le _ rs)

end Tables

namespace Session

open Tables

/-- A session that saves nodes or relations in a batch works on the tables that come of inserting
them row by row. It counts as inserted what the tables have grown by, and the rest of the different
ids, and of the relations, as skipped. -/
theorem saves_row_by_row (s : Session) (ns : List Node) (rs : List Relation) :
    (∃ saved, s.saveNodes ns =
        ({ s with working := ns.foldl insertNode s.working }, .ok saved) ∧
      saved.inserted + s.working.nodes.length = (ns.foldl insertNode s.working).nodes.length ∧
      saved.inserted + saved.skipped = (ns.map Node.id).toFinset.card) ∧
    (∃ saved, s.saveRelations rs =
        ({ s with working := rs.foldl insertRelation s.working }, .ok saved) ∧
      saved.inserted + s.working.relations.length =
        (rs.foldl insertRelation s.working).relations.length ∧
      saved.inserted + saved.skipped = rs.length) := by
  have hnodes : (s.working.saveNodes ns).1 = ns.foldl insertNode s.working := by
    rw [nodes_saveNodes, foldl_insertNode]
  have hrelations : (s.working.saveRelations rs).1 = rs.foldl insertRelation s.working := by
    rw [relations_saveRelations, foldl_insertRelation]
  constructor
  · refine ⟨(s.working.saveNodes ns).2, ?_, ?_, ?_⟩
    · rw [← hnodes]
      rfl
    · rw [← hnodes]
      exact inserted_saveNodes s.working ns
    · exact inserted_add_skipped_saveNodes s.working ns
  · refine ⟨(s.working.saveRelations rs).2, ?_, ?_, ?_⟩
    · rw [← hrelations]
      rfl
    · rw [← hrelations]
      exact inserted_saveRelations s.working rs
    · exact inserted_add_skipped_saveRelations s.working rs

/-- A repeat within a batch is skipped, and so is a relation that is stored with the same absent
attributes. -/
example :
    let r : Relation := { source := "A", target := "B" }
    let s : Session := { working := { relations := [r] } }
    (s.saveRelations [r, { r with target := "C" }, { r with target := "C" }]).1.working.relations =
      [r, { r with target := "C" }] := by
  decide +kernel

end Session

end Requisite
