import Mathlib.Data.List.Nodup
import Requisite.Proofs.Leaf
import Requisite.Proofs.Store.Courses
import Requisite.Store.Session

/-!
# What saving a graph leaves

Saving looks keys up in slices and inserts in batches, and yet every table receives its rows one by
one: nodes arrive by their ids (`nodes_saveNodes`), relations by all that they hold
(`relations_saveRelations`), as in `addAll`, and courses by their keys (`Tables.rowsAfter`). Only
courses can be refused, for nodes that other courses have, so a graph is saved exactly if its
courses are admitted, and the tables are then `Tables.afterGraph` (`exists_saveGraph_iff`). Where no
subject code holds a number sign, the node of a course says its key, and nothing is refused
(`NodesSayKeys.admits`).
-/

namespace Requisite

namespace Tables

variable {t : Tables}

/-! ## Slices -/

/-- The slices together are the pending elements and the list. -/
theorem flatten_slicesAfter {α : Type} (size : Nat) (pending xs : List α) :
    (slicesAfter size pending xs).flatten = pending ++ xs := by
  induction xs generalizing pending with
  | nil =>
    rw [slicesAfter]
    split
    next h => simpa using (List.isEmpty_iff.1 h).symm
    next => simp
  | cons x xs ih =>
    rw [slicesAfter]
    split
    · rw [ih, List.append_assoc]
      rfl
    · rw [List.flatten_cons, ih, List.append_assoc]
      rfl

/-- Something is in one of the slices exactly when it is in the list. -/
theorem exists_mem_slices {α : Type} {xs : List α} {x : α} :
    (∃ slice ∈ slices xs, x ∈ slice) ↔ x ∈ xs := by
  rw [← List.mem_flatten, slices, flatten_slicesAfter, List.nil_append]

/-- Looked up slice by slice, those are found whose key is asked for. -/
theorem mem_flatMap_slices {α : Type} {keys : List String} {xs : List α} (key : α → String)
    {x : α} : (x ∈ (slices keys).flatMap fun slice => xs.filter fun y => slice.contains (key y)) ↔
      x ∈ xs ∧ key x ∈ keys := by
  rw [List.mem_flatMap, ← exists_mem_slices (x := key x)]
  simp only [List.mem_filter, List.contains_iff_mem]
  constructor
  · rintro ⟨slice, hslice, hx, hmem⟩
    exact ⟨hx, slice, hslice, hmem⟩
  · rintro ⟨hx, slice, hslice, hmem⟩
    exact ⟨slice, hslice, hx, hmem⟩

/-- The ids that have a node are found, whichever slices they are in. -/
theorem mem_knownNodeIds {ids : List String} {id : String} :
    id ∈ t.knownNodeIds ids ↔ id ∈ t.nodes.map Node.id ∧ id ∈ ids :=
  mem_flatMap_slices fun id => id

/-- The relations from the sources are found, whichever slices these are in. -/
theorem mem_relationsFrom {sources : List String} {r : Relation} :
    r ∈ t.relationsFrom sources ↔ r ∈ t.relations ∧ r.source ∈ sources :=
  mem_flatMap_slices Relation.source

/-! ## Nodes and relations -/

/-- Saved nodes arrive one by one, each new if its id is. -/
theorem nodes_saveNodes (t : Tables) (ns : List Node) :
    (t.saveNodes ns).1 = { t with nodes := addAll Node.id t.nodes ns } := by
  -- Only ids of the batch are looked up, and only for these it matters whether they are known.
  have hfresh : (firsts Node.id ns).filter
        (fun n => !(t.knownNodeIds ((firsts Node.id ns).map Node.id)).contains n.id) =
      (firsts Node.id ns).filter fun n => n.id ∉ t.nodes.map Node.id := by
    refine List.filter_congr fun n hn => ?_
    have hid : n.id ∈ (firsts Node.id ns).map Node.id := List.mem_map_of_mem hn
    rw [Bool.eq_iff_iff, Bool.not_eq_true', ← Bool.not_eq_true, List.contains_iff_mem,
      mem_knownNodeIds, decide_eq_true_iff]
    exact not_congr ⟨And.left, fun h => ⟨h, hid⟩⟩
  rw [addAll_eq_append, ← hfresh]
  rfl

/-- The new relations of a batch are those that arrive after the known ones, if the known ones are
told apart from the rest of the batch. -/
theorem append_newRelations {known rs : List Relation} (xs : List Relation)
    (h : ∀ r ∈ rs, r ∈ known ↔ r ∈ xs) : xs ++ newRelations known rs = addAll id xs rs := by
  induction rs generalizing known xs with
  | nil => exact List.append_nil xs
  | cons r rs ih =>
    have hrs : ∀ r' ∈ rs, r' ∈ known ↔ r' ∈ xs := fun r' hr' => h r' (List.mem_cons_of_mem _ hr')
    have hr : r ∈ known ↔ r ∈ xs := h r List.mem_cons_self
    have hstep : addAll id xs (r :: rs) = addAll id (addNew id xs r) rs := rfl
    rw [newRelations, hstep]
    by_cases hmem : r ∈ known
    · rw [if_pos (List.contains_iff_mem.2 hmem), addNew_id_of_mem (hr.1 hmem)]
      exact ih xs hrs
    · -- The known relations grow by `r` as the list does, so they stay alike on the rest.
      have hknown : ∀ r' ∈ rs, r' ∈ r :: known ↔ r' ∈ xs ++ [r] := by
        intro r' hr'
        rw [List.mem_cons, List.mem_append, List.mem_singleton, hrs r' hr']
        exact or_comm
      rw [if_neg (mt List.contains_iff_mem.1 hmem), addNew_id_of_not_mem (mt hr.2 hmem),
        ← ih (xs ++ [r]) hknown, List.append_assoc]
      rfl

/-- Saved relations arrive one by one, each new if no stored one holds the same. -/
theorem relations_saveRelations (t : Tables) (rs : List Relation) :
    (t.saveRelations rs).1 = { t with relations := addAll id t.relations rs } := by
  have hknown : ∀ r ∈ rs, r ∈ t.relationsFrom (firsts id (rs.map Relation.source)) ↔
      r ∈ t.relations := by
    intro r hr
    rw [mem_relationsFrom, mem_firsts_id]
    exact ⟨And.left, fun h => ⟨h, List.mem_map_of_mem hr⟩⟩
  rw [← append_newRelations t.relations hknown]
  rfl

/-! ## Courses whose nodes say their keys -/

/-- The node of every stored course is the one that its key says, and says the key. -/
structure NodesSayKeys (t : Tables) : Prop where
  nodeIds : ∀ d ∈ t.courses, d.nodeId = courseNodeId d.subject d.catalog
  subjects : ∀ d ∈ t.courses, '#' ∉ d.subject.toList

/-- Courses with one node have one key. -/
theorem NodesSayKeys.key_eq (h : t.NodesSayKeys) {d : CourseRow} (hd : d ∈ t.courses)
    {subject catalog : String} (hsubject : '#' ∉ subject.toList)
    (hnode : d.nodeId = courseNodeId subject catalog) : d.key = (subject, catalog) := by
  rw [h.nodeIds d hd] at hnode
  obtain ⟨hs, hc⟩ := courseNodeId_injective (h.subjects d hd) hsubject hnode
  rw [CourseRow.key, hs, hc]

/-- There no course is refused. -/
theorem NodesSayKeys.admits (h : t.NodesSayKeys) {keys : List (String × String)}
    (hkeys : keys.Nodup) (hsubjects : ∀ key ∈ keys, '#' ∉ key.1.toList) :
    Admits t.courses keys := by
  have hnew : ∀ key ∈ newKeys t.courses keys, '#' ∉ key.1.toList :=
    fun key hkey => hsubjects key (List.mem_of_mem_filter hkey)
  constructor
  · -- Two new courses with one node would have one key.
    refine (hkeys.filter _).map_on fun key hkey key' hkey' hnode => ?_
    obtain ⟨hsubject, hcatalog⟩ := courseNodeId_injective (hnew key hkey) (hnew key' hkey') hnode
    exact Prod.ext hsubject hcatalog
  · -- A stored course with the node of a new one would have its key, which is not stored.
    intro key hkey hnode
    obtain ⟨d, hd, hnode⟩ := List.mem_map.1 hnode
    have hstored : key ∈ t.courses.map CourseRow.key :=
      List.mem_map.2 ⟨d, hd, h.key_eq hd (hnew key hkey) hnode⟩
    exact of_decide_eq_true (List.mem_filter.1 hkey).2 hstored

/-- The nodes say their keys after courses are saved. -/
theorem NodesSayKeys.after (h : t.NodesSayKeys) {keys : List (String × String)}
    (hsubjects : ∀ key ∈ keys, '#' ∉ key.1.toList) {t' : Tables}
    {name : String × String → Option String} (hrows : t'.courses = rowsAfter t.courses keys name) :
    t'.NodesSayKeys := by
  have hrow : ∀ d ∈ t'.courses, d.nodeId = courseNodeId d.subject d.catalog ∧
      '#' ∉ d.subject.toList := by
    intro d hd
    rcases cases_of_mem_rowsAfter (hrows ▸ hd) with ⟨d₀, hd₀, hkey, hnode⟩ | ⟨key, hkey, rfl⟩
    · obtain ⟨hsubject, hcatalog⟩ := Prod.mk.inj hkey
      rw [hnode, hsubject, hcatalog]
      exact ⟨h.nodeIds d₀ hd₀, h.subjects d₀ hd₀⟩
    · exact ⟨rfl, hsubjects key (List.mem_of_mem_filter hkey)⟩
  exact ⟨fun d hd => (hrow d hd).1, fun d hd => (hrow d hd).2⟩

/-! ## Graphs -/

/-- The tables after a graph is saved: the nodes and the nodes of the courses arrive one by one, and
so do the relations. -/
def afterGraph (t : Tables) (ns : List Node) (cs : List Course) (rs : List Relation) : Tables :=
  { t with
    nodes := addAll Node.id (addAll Node.id t.nodes ns) (cs.map fun c => courseNode c.nodeId)
    courses := rowsAfter t.courses (firsts id (cs.map Course.key)) (firstName cs)
    relations := addAll id t.relations rs }

/-- The courses of a graph arrive by their keys. -/
theorem map_key_afterGraph (t : Tables) (ns : List Node) (cs : List Course) (rs : List Relation) :
    (t.afterGraph ns cs rs).courses.map CourseRow.key =
      addAll id (t.courses.map CourseRow.key) (cs.map Course.key) :=
  map_key_rowsAfter_firsts

variable {ns : List Node} {cs : List Course} {rs : List Relation} {t' : Tables}

/-- Courses are saved, each with its node, exactly if they are admitted. -/
theorem exists_saveCourses_iff : (∃ saved, t.saveCourses cs = .ok (t', saved)) ↔
    Admits t.courses (firsts id (cs.map Course.key)) ∧
      t' = { t with
        nodes := addAll Node.id t.nodes (cs.map fun c => courseNode c.nodeId)
        courses := rowsAfter t.courses (firsts id (cs.map Course.key)) (firstName cs) } := by
  have hafter : t.saveCourses cs =
      saveCoursesAfter [] {} (t.saveNodes (cs.map fun c => courseNode c.nodeId)).1 cs := rfl
  rw [hafter, exists_saveCoursesAfter_iff (fun key _ => rfl), nodes_saveNodes, unseenKeys_nil]

/-- A graph is saved in three steps, of which the second may fail. -/
theorem saveGraph_eq_ok_iff {saved : GraphSaved} : t.saveGraph ns cs rs = .ok (t', saved) ↔
    (t.saveNodes ns).2 = saved.nodes ∧ ∃ u,
      (t.saveNodes ns).1.saveCourses cs = .ok (u, saved.courses) ∧
        u.saveRelations rs = (t', saved.relations) := by
  have hthen : t.saveGraph ns cs rs = ((t.saveNodes ns).1.saveCourses cs >>= fun after =>
      .ok ((after.1.saveRelations rs).1,
        ⟨(t.saveNodes ns).2, after.2, (after.1.saveRelations rs).2⟩)) := rfl
  rw [hthen]
  cases (t.saveNodes ns).1.saveCourses cs with
  | error fault => simp [bind, Except.bind]
  | ok after =>
    obtain ⟨nodes, courses, relations⟩ := saved
    simp only [bind, Except.bind, Except.ok.injEq, Prod.ext_iff, GraphSaved.mk.injEq]
    grind

/-- A graph is saved exactly if its courses are admitted, and then the tables are those that come
after it. -/
theorem exists_saveGraph_iff : (∃ saved, t.saveGraph ns cs rs = .ok (t', saved)) ↔
    Admits t.courses (firsts id (cs.map Course.key)) ∧ t' = t.afterGraph ns cs rs := by
  constructor
  · rintro ⟨saved, h⟩
    obtain ⟨-, u, hcourses, hrelations⟩ := saveGraph_eq_ok_iff.1 h
    rw [nodes_saveNodes] at hcourses
    obtain ⟨hadmits, rfl⟩ := exists_saveCourses_iff.1 ⟨_, hcourses⟩
    have htables := congrArg Prod.fst hrelations
    rw [relations_saveRelations] at htables
    exact ⟨hadmits, htables.symm⟩
  · rintro ⟨hadmits, rfl⟩
    have hnodes : Admits (t.saveNodes ns).1.courses (firsts id (cs.map Course.key)) := hadmits
    obtain ⟨courses, hcourses⟩ := exists_saveCourses_iff.2 ⟨hnodes, rfl⟩
    refine ⟨⟨(t.saveNodes ns).2, courses, _⟩,
      saveGraph_eq_ok_iff.2 ⟨rfl, _, hcourses, Prod.ext ?_ rfl⟩⟩
    rw [relations_saveRelations, nodes_saveNodes]
    rfl

/-- A graph is saved whatever it is, if no subject code holds a number sign, and the nodes still say
their keys. -/
theorem NodesSayKeys.exists_saveGraph (h : t.NodesSayKeys) (ns : List Node)
    (hcs : ∀ c ∈ cs, '#' ∉ c.subject.toList) (rs : List Relation) :
    (t.afterGraph ns cs rs).NodesSayKeys ∧
      ∃ saved, t.saveGraph ns cs rs = .ok (t.afterGraph ns cs rs, saved) := by
  have hkeys : ∀ key ∈ firsts id (cs.map Course.key), '#' ∉ key.1.toList := by
    intro key hkey
    obtain ⟨c, hc, rfl⟩ := List.mem_map.1 (mem_firsts_id.1 hkey)
    exact hcs c hc
  exact ⟨h.after hkeys rfl, exists_saveGraph_iff.2 ⟨h.admits (nodup_firsts _) hkeys, rfl⟩⟩

end Tables

/-- A step is written exactly if its tables make it, and then the session works on the tables that
it leaves. -/
theorem Session.write_eq_ok_iff {α : Type} {s s' : Session}
    {step : Tables → Except ConstraintFault (Tables × α)} {a : α} :
    s.write step = (s', .ok a) ↔
      ∃ t, step s.working = .ok (t, a) ∧ s' = { s with working := t } := by
  rw [write]
  constructor
  · intro h
    cases hstep : step s.working with
    | error fault =>
      rw [hstep] at h
      cases h
    | ok after =>
      rw [hstep] at h
      cases h
      exact ⟨_, rfl, rfl⟩
  · rintro ⟨t, hstep, rfl⟩
    rw [hstep]

/-- A step is committed exactly if its tables make it, and then the session works on the tables that
it leaves, and these last. -/
theorem Session.transact_eq_ok_iff {α : Type} {s s' : Session}
    {step : Tables → Except ConstraintFault (Tables × α)} {a : α} :
    s.transact step = (s', .ok a) ↔
      ∃ t, step s.working = .ok (t, a) ∧ s' = { committed := t, working := t } := by
  rw [transact]
  constructor
  · intro h
    split at h
    next s₁ a₁ hwrite =>
      cases h
      obtain ⟨t, hstep, rfl⟩ := write_eq_ok_iff.1 hwrite
      exact ⟨t, hstep, rfl⟩
    next => cases h
  · rintro ⟨t, hstep, rfl⟩
    rw [write_eq_ok_iff.2 ⟨t, hstep, rfl⟩]
    rfl

/-- A session saves a graph exactly if its tables do, and works on the saved tables, which last. -/
theorem Session.saveGraph_eq_ok_iff {s s' : Session} {ns : List Node} {cs : List Course}
    {rs : List Relation} {saved : GraphSaved} : s.saveGraph ns cs rs = (s', .ok saved) ↔
      ∃ t, s.working.saveGraph ns cs rs = .ok (t, saved) ∧
        s' = { committed := t, working := t } :=
  transact_eq_ok_iff

end Requisite
