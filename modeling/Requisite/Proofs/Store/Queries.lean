import Requisite.Proofs.Store.Walk

/-!
# What a course needs and what depends on a node are one relation

The answers to the two queries, said by the ways between nodes. The requisites of a course are the
stored nodes to which relations lead from its node (`mem_nodes_of_requisitesFor`), and the
dependents of a node are the courses from whose nodes relations lead to it
(`mem_of_dependentsOf`). So the two queries answer alike, whatever the relations are.
-/

namespace Requisite

namespace Tables

variable {t : Tables} {transitive : Bool} {d : CourseRow} {id : String}

/-! ## Finding rows -/

/-- No two courses share a key, and no two share a node. -/
structure CoursesApart (t : Tables) : Prop where
  keys : (t.courses.map CourseRow.key).Nodup
  nodeIds : (t.courses.map CourseRow.nodeId).Nodup

/-- A stored course is found by its key. -/
theorem CoursesApart.course?_eq (h : t.CoursesApart) (hd : d ∈ t.courses) :
    t.course? d.key = some d :=
  find?_of_mem h.keys hd

/-- A stored course is found by its node. -/
theorem CoursesApart.courseOfNode?_eq (h : t.CoursesApart) (hd : d ∈ t.courses) :
    t.courseOfNode? d.nodeId = some d :=
  find?_of_mem h.nodeIds hd

/-- What is found by its node is a stored course with that node. -/
theorem courseOfNode?_eq_some (h : t.courseOfNode? id = some d) : d ∈ t.courses ∧ d.nodeId = id :=
  ⟨List.mem_of_find?_eq_some h, by simpa using List.find?_some h⟩

/-- An id is that of a course node exactly when a stored course has it. -/
theorem isCourseNode_iff : t.isCourseNode id ↔ id ∈ t.courses.map CourseRow.nodeId := by
  rw [isCourseNode, courseOfNode?, List.find?_isSome, List.mem_map]
  simp

/-- A node is found exactly when it is stored. -/
theorem isSome_node?_iff : (t.node? id).isSome ↔ id ∈ t.nodes.map Node.id := by
  rw [node?, List.find?_isSome, List.mem_map]
  simp

/-- What is found has the id that was asked for. -/
theorem id_of_node?_eq_some {n : Node} (h : t.node? id = some n) : n.id = id := by
  simpa using List.find?_some h

/-- The ids of the nodes found for a list of ids are those of the list that have a node. -/
theorem mem_map_filterMap_node? {ids : List String} :
    id ∈ (ids.filterMap t.node?).map Node.id ↔ id ∈ ids ∧ id ∈ t.nodes.map Node.id := by
  rw [List.mem_map, ← isSome_node?_iff]
  constructor
  · rintro ⟨n, hn, rfl⟩
    obtain ⟨id, hid, hfind⟩ := List.mem_filterMap.1 hn
    rw [id_of_node?_eq_some hfind, hfind]
    exact ⟨hid, rfl⟩
  · rintro ⟨hid, hsome⟩
    obtain ⟨n, hfind⟩ := Option.isSome_iff_exists.1 hsome
    exact ⟨n, List.mem_filterMap.2 ⟨id, hid, hfind⟩, id_of_node?_eq_some hfind⟩

/-! ## The requisites of a course -/

/-- A stored course has requisites. -/
theorem exists_requisitesFor (h : t.CoursesApart) (hd : d ∈ t.courses) (transitive : Bool) :
    ∃ reqs, t.requisitesFor d.key transitive = some reqs := by
  rw [requisitesFor, h.course?_eq hd]
  exact ⟨_, rfl⟩

section

variable {reqs : Requisites} (h : t.CoursesApart) (hd : d ∈ t.courses)
  (hreqs : t.requisitesFor d.key transitive = some reqs)

include h hd hreqs

/-- The requisites of a stored course are read off the walk along the relations from its node. -/
theorem requisitesFor_eq :
    reqs.root = (t.forward transitive t.walkLength (.start d.nodeId)).relations.head?.map
        Relation.target ∧
      reqs.nodes = (t.forward transitive t.walkLength (.start d.nodeId)).met.filterMap t.node? ∧
      reqs.relations = (t.forward transitive t.walkLength (.start d.nodeId)).relations := by
  rw [requisitesFor, h.course?_eq hd] at hreqs
  obtain rfl := by simpa using hreqs
  exact ⟨rfl, rfl, rfl⟩

/-- The root is the target of the first relation from the node of the course. -/
theorem root_of_requisitesFor : reqs.root = (t.outgoing d.nodeId).head?.map Relation.target := by
  rw [(requisitesFor_eq h hd hreqs).1, head?_relations_forward]

/-- The nodes are those stored to which relations lead from the course, its own aside. -/
theorem mem_nodes_of_requisitesFor :
    id ∈ reqs.nodes.map Node.id ↔
      (id ≠ d.nodeId ∧ t.Leads transitive d.nodeId id) ∧ id ∈ t.nodes.map Node.id := by
  rw [(requisitesFor_eq h hd hreqs).2.1, mem_map_filterMap_node?, mem_met_forward]

/-- The relations are those stored from the node of the course, and from the nodes to which
relations lead from it and at which a walk goes on. -/
theorem mem_relations_of_requisitesFor {r : Relation} :
    r ∈ reqs.relations ↔ r ∈ t.relations ∧ (r.source = d.nodeId ∨
      t.Leads transitive d.nodeId r.source ∧ t.goesThrough transitive r.source) := by
  rw [(requisitesFor_eq h hd hreqs).2.2, mem_relations_forward]

end

/-! ## The dependents of a node -/

/-- A stored node has dependents, and only a stored one. -/
theorem exists_dependentsOf_iff (transitive : Bool) :
    (∃ deps, t.dependentsOf id transitive = some deps) ↔ id ∈ t.nodes.map Node.id := by
  rw [← Option.isSome_iff_exists, dependentsOf, Option.isSome_map, isSome_node?_iff]

/-- Dependents are stored courses. -/
theorem mem_courses_of_dependentsOf {deps : List CourseRow}
    (hdeps : t.dependentsOf id transitive = some deps) (hd : d ∈ deps) : d ∈ t.courses := by
  obtain ⟨-, -, rfl⟩ := Option.map_eq_some_iff.1 hdeps
  rw [List.mem_mergeSort, List.mem_filterMap] at hd
  obtain ⟨source, -, hfind⟩ := hd
  exact (courseOfNode?_eq_some hfind).1

/-- The dependents of a node are the stored courses from which relations lead to it, other than the
course that has the node. -/
theorem mem_of_dependentsOf {deps : List CourseRow} (h : t.CoursesApart) (hd : d ∈ t.courses)
    (hdeps : t.dependentsOf id transitive = some deps) :
    d ∈ deps ↔ d.nodeId ≠ id ∧ t.Leads transitive d.nodeId id := by
  rw [← mem_met_backward]
  obtain ⟨-, -, rfl⟩ := Option.map_eq_some_iff.1 hdeps
  rw [List.mem_mergeSort, List.mem_filterMap]
  constructor
  · rintro ⟨source, hsource, hfind⟩
    rwa [(courseOfNode?_eq_some hfind).2]
  · -- No other course is found by the node of this one.
    intro hsource
    exact ⟨d.nodeId, hsource, h.courseOfNode?_eq hd⟩

/-! ## One relation -/

/-- A course is among the dependents of another stored node exactly when that node is among the
requisites of the course. -/
theorem mem_dependentsOf_iff_mem_requisitesFor (h : t.CoursesApart) (hd : d ∈ t.courses)
    (hid : id ∈ t.nodes.map Node.id) (hne : id ≠ d.nodeId) (transitive : Bool) :
    ∃ deps reqs, t.dependentsOf id transitive = some deps ∧
      t.requisitesFor d.key transitive = some reqs ∧
      (d ∈ deps ↔ id ∈ reqs.nodes.map Node.id) := by
  obtain ⟨deps, hdeps⟩ := (exists_dependentsOf_iff transitive).2 hid
  obtain ⟨reqs, hreqs⟩ := exists_requisitesFor h hd transitive
  refine ⟨deps, reqs, hdeps, hreqs, ?_⟩
  rw [mem_of_dependentsOf h hd hdeps, mem_nodes_of_requisitesFor h hd hreqs]
  constructor
  · rintro ⟨-, hleads⟩
    exact ⟨⟨hne, hleads⟩, hid⟩
  · rintro ⟨⟨-, hleads⟩, -⟩
    exact ⟨hne.symm, hleads⟩

/-- The course `M 1` needs `A` and `M 2`, which needs itself or `M 1`. -/
def mutualNeed : Tables where
  nodes := [⟨"M#1", .value⟩, ⟨"M#2", .value⟩, ⟨"&AM#2", .and⟩, ⟨"A", .value⟩, ⟨"|M#1M#2", .or⟩]
  courses := [{ subject := "M", catalog := "1", nodeId := "M#1" },
    { subject := "M", catalog := "2", nodeId := "M#2" }]
  relations := [⟨"M#1", "&AM#2", none, none, none, none⟩,
    ⟨"&AM#2", "A", some true, some true, some false, some "C"⟩,
    ⟨"&AM#2", "M#2", some true, some true, some false, some ""⟩,
    ⟨"M#2", "|M#1M#2", none, none, none, none⟩,
    ⟨"|M#1M#2", "M#1", some false, some true, some true, some ""⟩,
    ⟨"|M#1M#2", "M#2", some false, some true, some true, some ""⟩]

/-- Of two courses that need each other, one is a dependent of the other as this is a requisite of
it, on the cycle between them. -/
theorem mem_dependentsOf_iff_mem_requisitesFor_mutualNeed :
    mutualNeed.CoursesApart ∧
      { subject := "M", catalog := "1", nodeId := "M#1" } ∈ mutualNeed.courses ∧
      "M#2" ∈ mutualNeed.nodes.map Node.id ∧ "M#2" ≠ "M#1" ∧
      ∃ deps reqs, mutualNeed.dependentsOf "M#2" false = some deps ∧
        mutualNeed.requisitesFor ("M", "1") false = some reqs ∧
        ({ subject := "M", catalog := "1", nodeId := "M#1" } ∈ deps ↔
          "M#2" ∈ reqs.nodes.map Node.id) := by
  have hapart : mutualNeed.CoursesApart := ⟨by decide, by decide⟩
  have hcourse : { subject := "M", catalog := "1", nodeId := "M#1" } ∈ mutualNeed.courses := by
    decide
  have hnode : "M#2" ∈ mutualNeed.nodes.map Node.id := by decide
  have hne : "M#2" ≠ "M#1" := by decide
  exact ⟨hapart, hcourse, hnode, hne,
    mem_dependentsOf_iff_mem_requisitesFor hapart hcourse hnode hne false⟩

end Tables

end Requisite
