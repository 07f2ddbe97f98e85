import Requisite.Proofs.Store.Offerings
import Requisite.Proofs.Store.Queries
import Requisite.Proofs.Store.Saving

/-!
# What every history of saving leaves

The schema of the store keeps some rows apart (`Tables.Keyed`), but nothing in it keeps a relation
from being stored twice, or makes a course belong to the node that its key says. Saving does
(`Tables.Consistent`). Nodes, courses, relations and graphs all leave tables of the form
`Tables.afterGraph`, so one lemma is about all four. The details of courses insert courses in a way
of their own, and each of these has its node from the start of the batch.

Whatever is saved, a session of consistent tables stays one, also where a save is refused. So the
tables are consistent after every history (`Session.consistent_saveAll`).
-/

namespace Requisite

open Schedule

namespace Tables

variable {t t' : Tables} {ns : List Node} {cs : List Course} {rs : List Relation}

/-! ## Consistent tables -/

/-- The columns that identify the rows of a table tell them apart. -/
structure Keyed (t : Tables) : Prop extends t.CoursesApart where
  nodes : (t.nodes.map Node.id).Nodup
  quarters : (t.quarters.map Quarter.code).Nodup
  subjects : (t.subjects.map SubjectArea.code).Nodup
  links : t.links.Nodup

/-- Besides, no relation is stored twice, and the node of every course is the one that its key says,
and is stored. -/
structure Consistent (t : Tables) : Prop extends t.Keyed where
  relations : t.relations.Nodup
  keyNodes : ∀ d ∈ t.courses, d.nodeId = courseNodeId d.subject d.catalog
  courseNodes : ∀ d ∈ t.courses, d.nodeId ∈ t.nodes.map Node.id

/-- Empty tables are consistent. -/
theorem consistent_empty : ({} : Tables).Consistent where
  keys := List.nodup_nil
  nodeIds := List.nodup_nil
  nodes := List.nodup_nil
  quarters := List.nodup_nil
  subjects := List.nodup_nil
  links := List.nodup_nil
  relations := List.nodup_nil
  keyNodes := List.forall_mem_nil _
  courseNodes := List.forall_mem_nil _

/-! ## Graphs and their parts -/

/-- Tables stay keyed when a graph is saved whose courses are admitted. -/
theorem Keyed.afterGraph (h : t.Keyed) (ns : List Node)
    (hadmits : Admits t.courses (firsts id (cs.map Course.key))) (rs : List Relation) :
    (t.afterGraph ns cs rs).Keyed where
  keys := by
    rw [map_key_afterGraph]
    exact nodup_addAll_id h.keys
  nodeIds := hadmits.nodup_nodeIds h.nodeIds
  nodes := nodup_map_addAll (nodup_map_addAll h.nodes)
  quarters := h.quarters
  subjects := h.subjects
  links := h.links

/-- They stay consistent, since the node of each of the courses is saved too. -/
theorem Consistent.afterGraph (h : t.Consistent) (ns : List Node)
    (hadmits : Admits t.courses (firsts id (cs.map Course.key))) (rs : List Relation) :
    (t.afterGraph ns cs rs).Consistent where
  toKeyed := h.toKeyed.afterGraph ns hadmits rs
  relations := nodup_addAll_id h.relations
  keyNodes := by
    intro d hd
    rcases cases_of_mem_rowsAfter hd with ⟨d₀, hd₀, hkey, hnode⟩ | ⟨key, -, rfl⟩
    · obtain ⟨hsubject, hcatalog⟩ := Prod.mk.inj hkey
      rw [hnode, hsubject, hcatalog]
      exact h.keyNodes d₀ hd₀
    · rfl
  courseNodes := by
    intro d hd
    rw [Tables.afterGraph, mem_map_addAll, mem_map_addAll, List.map_map]
    rcases cases_of_mem_rowsAfter hd with ⟨d₀, hd₀, -, hnode⟩ | ⟨key, hkey, rfl⟩
    · rw [hnode]
      exact .inl (.inl (h.courseNodes d₀ hd₀))
    · obtain ⟨c, hc, rfl⟩ := List.mem_map.1 (mem_firsts_id.1 (List.mem_of_mem_filter hkey))
      exact .inr (List.mem_map.2 ⟨c, hc, rfl⟩)

/-- Without courses a graph leaves the courses as they are. -/
theorem afterGraph_nil (t : Tables) (ns : List Node) (rs : List Relation) :
    t.afterGraph ns [] rs =
      { t with nodes := addAll Node.id t.nodes ns, relations := addAll id t.relations rs } := by
  have hrows : rowsAfter t.courses (firsts id ([].map Course.key)) (firstName []) = t.courses :=
    rowsAfter_nil
  rw [Tables.afterGraph, hrows]
  rfl

/-- Consistent tables stay so when nodes are saved. -/
theorem Consistent.saveNodes (h : t.Consistent) (ns : List Node) :
    (t.saveNodes ns).1.Consistent := by
  have hafter : (t.afterGraph ns [] []).Consistent := h.afterGraph ns admits_nil []
  rw [nodes_saveNodes]
  rwa [afterGraph_nil] at hafter

/-- Consistent tables stay so when relations are saved. -/
theorem Consistent.saveRelations (h : t.Consistent) (rs : List Relation) :
    (t.saveRelations rs).1.Consistent := by
  have hafter : (t.afterGraph [] [] rs).Consistent := h.afterGraph [] admits_nil rs
  rw [relations_saveRelations]
  rwa [afterGraph_nil] at hafter

/-- Consistent tables stay so when courses are saved. -/
theorem Consistent.saveCourses (h : t.Consistent) {saved : Saved}
    (hsave : t.saveCourses cs = .ok (t', saved)) : t'.Consistent := by
  obtain ⟨hadmits, rfl⟩ := exists_saveCourses_iff.1 ⟨saved, hsave⟩
  exact h.afterGraph [] hadmits []

/-- Consistent tables stay so when a graph is saved. -/
theorem Consistent.saveGraph (h : t.Consistent) {saved : GraphSaved}
    (hsave : t.saveGraph ns cs rs = .ok (t', saved)) : t'.Consistent := by
  obtain ⟨hadmits, rfl⟩ := exists_saveGraph_iff.1 ⟨saved, hsave⟩
  exact h.afterGraph ns hadmits rs

/-! ## Course details -/

/-- Courses may change, but for their keys and their nodes. -/
theorem Consistent.mapCourses (h : t.Consistent) {f : CourseRow → CourseRow}
    (hkey : ∀ d, (f d).key = d.key) (hnode : ∀ d, (f d).nodeId = d.nodeId) :
    { t with courses := t.courses.map f }.Consistent where
  toKeyed :=
    { h.toKeyed with
      keys := by
        have hsame : CourseRow.key ∘ f = CourseRow.key := funext hkey
        rw [List.map_map, hsame]
        exact h.keys
      nodeIds := by
        have hsame : CourseRow.nodeId ∘ f = CourseRow.nodeId := funext hnode
        rw [List.map_map, hsame]
        exact h.nodeIds }
  relations := h.relations
  keyNodes := by
    intro d hd
    obtain ⟨d₀, hd₀, rfl⟩ := List.mem_map.1 hd
    obtain ⟨hsubject, hcatalog⟩ := Prod.mk.inj (hkey d₀)
    rw [hnode, hsubject, hcatalog]
    exact h.keyNodes d₀ hd₀
  courseNodes := by
    intro d hd
    obtain ⟨d₀, hd₀, rfl⟩ := List.mem_map.1 hd
    rw [hnode]
    exact h.courseNodes d₀ hd₀

/-- A course with a new key may be inserted, if its node is the one that its key says, is stored and
belongs to no other course. -/
theorem Consistent.append (h : t.Consistent) {d : CourseRow}
    (hkey : d.key ∉ t.courses.map CourseRow.key)
    (hnode : d.nodeId ∉ t.courses.map CourseRow.nodeId)
    (hkeyNode : d.nodeId = courseNodeId d.subject d.catalog)
    (hstored : d.nodeId ∈ t.nodes.map Node.id) :
    { t with courses := t.courses ++ [d] }.Consistent where
  toKeyed :=
    { h.toKeyed with
      keys := by
        rw [← addNew_of_not_mem hkey]
        exact nodup_map_addNew h.keys
      nodeIds := by
        rw [← addNew_of_not_mem hnode]
        exact nodup_map_addNew h.nodeIds }
  relations := h.relations
  keyNodes := List.forall_mem_append.2 ⟨h.keyNodes, List.forall_mem_singleton.2 hkeyNode⟩
  courseNodes := List.forall_mem_append.2 ⟨h.courseNodes, List.forall_mem_singleton.2 hstored⟩

/-- The details of courses whose nodes are stored are saved one by one. -/
theorem Consistent.saveDetailsOf (h : t.Consistent) {ds : List CourseDetails}
    (hds : ∀ d ∈ ds, detailsNodeId d ∈ t.nodes.map Node.id) {saved saved' : DetailsSaved}
    (hsave : Tables.saveDetailsOf saved t ds = .ok (t', saved')) : t'.Consistent := by
  induction ds generalizing t saved with
  | nil =>
    rw [Tables.saveDetailsOf] at hsave
    cases hsave
    exact h
  | cons d ds ih =>
    obtain ⟨hd, hds⟩ := List.forall_mem_cons.1 hds
    rw [Tables.saveDetailsOf] at hsave
    dsimp only at hsave
    split at hsave
    next hfound =>
      refine ih (h.mapCourses (fun c => ?_) fun c => ?_) hds hsave <;> split <;> rfl
    next hfound =>
      rw [insertCourse_eq] at hsave
      split at hsave
      next => cases hsave
      next hnode =>
        refine ih (h.append ?_ hnode rfl hd) hds hsave
        exact mt isSome_course?_iff.2 hfound

/-- Consistent tables stay so when details are saved, since the nodes of their courses are saved
first. -/
theorem Consistent.saveDetails (h : t.Consistent) {ds : List CourseDetails} {saved : DetailsSaved}
    (hsave : t.saveDetails ds = .ok (t', saved)) : t'.Consistent := by
  refine (h.saveNodes (ds.map fun d => courseNode (detailsNodeId d))).saveDetailsOf ?_ hsave
  intro d hd
  rw [nodes_saveNodes, mem_map_addAll, List.map_map]
  exact .inr (List.mem_map.2 ⟨d, hd, rfl⟩)

/-! ## Quarters, subject areas and links -/

variable {n : Nat}

/-- Consistent tables stay so when quarters are saved. -/
theorem Consistent.saveQuarters (h : t.Consistent) {pairs : List (Option String × Option String)}
    (hsave : t.saveQuarters pairs = .ok (t', n)) : t'.Consistent := by
  rw [saveQuarters_eq, map_eq_ok] at hsave
  obtain ⟨after, hafter, heq⟩ := hsave
  cases heq
  exact { h with quarters := nodup_insertEach code_of_quarterRow? hafter h.quarters }

/-- Consistent tables stay so when subject areas are saved. -/
theorem Consistent.saveSubjects (h : t.Consistent) {pairs : List (Option String × Option String)}
    (hsave : t.saveSubjects pairs = .ok (t', n)) : t'.Consistent := by
  rw [saveSubjects_eq, map_eq_ok] at hsave
  obtain ⟨after, hafter, heq⟩ := hsave
  cases heq
  exact { h with subjects := nodup_insertEach code_of_subjectRow? hafter h.subjects }

/-- Consistent tables stay so when links are saved. -/
theorem Consistent.saveLinks (h : t.Consistent) {quarter : Option String}
    {codes : List (Option String)} (hsave : t.saveLinks quarter codes = .ok (t', n)) :
    t'.Consistent := by
  rw [saveLinks_eq, map_eq_ok] at hsave
  obtain ⟨after, hafter, heq⟩ := hsave
  cases heq
  have hkeys : (t.links.map id).Nodup := by
    rw [List.map_id]
    exact h.links
  have hlinks : (after.1.map id).Nodup :=
    nodup_insertEach id_of_linkRow? hafter hkeys
  rw [List.map_id] at hlinks
  exact { h with links := hlinks }

end Tables

/-! ## Histories -/

/-- Something to save. -/
inductive Save where
  | nodes (ns : List Node)
  | courses (cs : List Course)
  | relations (rs : List Relation)
  | graph (ns : List Node) (cs : List Course) (rs : List Relation)
  /-- Quarters, by code and name. -/
  | quarters (pairs : List (Option String × Option String))
  /-- Subject areas, by code and name. -/
  | subjects (pairs : List (Option String × Option String))
  /-- The subject areas that have classes in a quarter, by code. -/
  | links (quarter : Option String) (codes : List (Option String))
  | details (ds : List CourseDetails)
  deriving DecidableEq, Repr

namespace Session

variable {s : Session} {P : Tables → Prop}

/-- The end of a save, without what it counts. -/
def uncounted {α : Type} (after : Session × Except ConstraintFault α) :
    Session × Except ConstraintFault Unit :=
  (after.1, after.2.map fun _ => ())

/-- The session after something is saved, or after that is refused and taken back. -/
def save (s : Session) : Save → Session × Except ConstraintFault Unit
  | .nodes ns => uncounted (s.saveNodes ns)
  | .courses cs => uncounted (s.saveCourses cs)
  | .relations rs => uncounted (s.saveRelations rs)
  | .graph ns cs rs => uncounted (s.saveGraph ns cs rs)
  | .quarters pairs => uncounted (s.saveQuarters pairs)
  | .subjects pairs => uncounted (s.saveSubjects pairs)
  | .links quarter codes => uncounted (s.saveLinks quarter codes)
  | .details ds => uncounted (s.saveDetails ds)

/-- The session after several things are saved one after the other. -/
def saveAll (s : Session) (saves : List Save) : Session :=
  saves.foldl (fun s what => (s.save what).1) s

/-- The tables have the property, as they were last committed and as they are now. -/
structure Both (P : Tables → Prop) (s : Session) : Prop where
  committed : P s.committed
  working : P s.working

/-- A property that a step keeps is kept by writing it. -/
theorem Both.write (h : s.Both P) {α : Type} (step : Tables → Except ConstraintFault (Tables × α))
    (hstep : ∀ {t a}, step s.working = .ok (t, a) → P t) : (s.write step).1.Both P := by
  rw [Session.write]
  split
  next t a hok => exact ⟨h.committed, hstep hok⟩
  next => exact ⟨h.committed, h.committed⟩

/-- A property that a step keeps is kept by writing and committing it. -/
theorem Both.transact (h : s.Both P) {α : Type}
    (step : Tables → Except ConstraintFault (Tables × α))
    (hstep : ∀ {t a}, step s.working = .ok (t, a) → P t) : (s.transact step).1.Both P := by
  have hwrite := h.write step hstep
  rw [Session.transact]
  split
  next s' a hok =>
    rw [hok] at hwrite
    exact ⟨hwrite.working, hwrite.working⟩
  next s' fault herror =>
    rw [herror] at hwrite
    exact hwrite

/-- Whatever is saved, consistent tables stay so. -/
theorem Both.save (h : s.Both Tables.Consistent) (what : Save) :
    (s.save what).1.Both Tables.Consistent := by
  cases what with
  | nodes ns =>
    refine h.write (fun t => .ok (t.saveNodes ns)) fun hok => ?_
    cases hok
    exact h.working.saveNodes ns
  | courses cs => exact h.write (fun t => t.saveCourses cs) h.working.saveCourses
  | relations rs =>
    refine h.write (fun t => .ok (t.saveRelations rs)) fun hok => ?_
    cases hok
    exact h.working.saveRelations rs
  | graph ns cs rs => exact h.transact (fun t => t.saveGraph ns cs rs) h.working.saveGraph
  | quarters pairs => exact h.transact (fun t => t.saveQuarters pairs) h.working.saveQuarters
  | subjects pairs => exact h.transact (fun t => t.saveSubjects pairs) h.working.saveSubjects
  | links quarter codes =>
    exact h.transact (fun t => t.saveLinks quarter codes) h.working.saveLinks
  | details ds => exact h.transact (fun t => t.saveDetails ds) h.working.saveDetails

/-- However much is saved, consistent tables stay so. -/
theorem Both.saveAll (h : s.Both Tables.Consistent) (saves : List Save) :
    (s.saveAll saves).Both Tables.Consistent := by
  induction saves generalizing s with
  | nil => exact h
  | cons what saves ih => exact ih (h.save what)

/-- After every history the tables are consistent, the committed ones and those at work: whatever
was saved to the empty store, in whichever order, and whichever of it was refused. -/
theorem consistent_saveAll (saves : List Save) : (saveAll {} saves).Both Tables.Consistent :=
  Both.saveAll ⟨Tables.consistent_empty, Tables.consistent_empty⟩ saves

/-- A relation without attributes that is saved again, within a batch and after it, is stored
once. -/
example :
    let r : Relation := { source := "A", target := "B" }
    (saveAll {} [.relations [r, r], .relations [r]]).working.relations = [r] := by
  decide +kernel

end Session

end Requisite
