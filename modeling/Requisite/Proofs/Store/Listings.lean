import Requisite.Proofs.Accumulation
import Requisite.Proofs.Expr.Rooted
import Requisite.Proofs.Store.Queries

/-!
# Courses that share a store

A run lists courses, each with a text that is accepted as its requisites, and saves the graphs of
all in one store. Courses share nodes there, and are requisites of each other or of themselves.
Where all their leaves can be told apart (`Listing.Apart`), a walk from the node of one course meets
the nodes of its own graph and no others (`Stored.leads_iff`): relations from a shared node have
their likes in every graph with the node, and at another course the walk ends.

The likes may differ in their attributes, and a stored relation does not say whose it is. So the
requisites of a course have its own relations and, beside them, those of other courses between the
same nodes (`Stored.exists_requisitesFor`).
-/

namespace Requisite

open Accumulator (Step)

/-- A course with a text that is accepted as its requisites. -/
structure Listing where
  course : Course
  text : String
  /-- The graph that the text gives the course. -/
  graph : Graph
  accepted : Graph.ofText course.nodeId text = .ok graph

namespace Listing

/-- The steps that record the course and its graph. -/
def steps (e : Listing) : List Step :=
  Accumulator.bindSteps e.course ++ Accumulator.mergeSteps e.graph

/-- The steps of several courses bring their nodes and those of their graphs. -/
theorem flatMap_nodesOf_steps (es : List Listing) :
    (es.flatMap steps).flatMap Step.nodesOf =
      es.flatMap fun e => ⟨e.course.nodeId, .value⟩ :: e.graph.nodes := by
  rw [List.flatMap_assoc]
  simp [steps, Accumulator.bindSteps, Accumulator.mergeSteps, Step.nodesOf]

/-- They bring the courses themselves and those that the graphs name. -/
theorem flatMap_coursesOf_steps (es : List Listing) :
    (es.flatMap steps).flatMap Step.coursesOf =
      es.flatMap fun e => e.course :: e.graph.courses := by
  rw [List.flatMap_assoc]
  simp [steps, Accumulator.bindSteps, Accumulator.mergeSteps, Step.coursesOf]

/-- They bring the relations of the graphs. -/
theorem flatMap_relationsOf_steps (es : List Listing) :
    (es.flatMap steps).flatMap Step.relationsOf = es.flatMap fun e => e.graph.relations := by
  rw [List.flatMap_assoc]
  simp [steps, Accumulator.bindSteps, Accumulator.mergeSteps, Step.relationsOf]

/-- The tree derives the text. -/
def HasTree (e : Listing) (d : Derivation) : Prop :=
  DerivesAll (tokenize e.text) d

/-- The graph is the one that the tree says. -/
theorem HasTree.reading {e : Listing} {d : Derivation} (h : e.HasTree d) :
    Reading e.course.nodeId d e.graph := by
  obtain ⟨g, hg, hread⟩ := (derivesAll_tokenize.1 h).exists_reading e.course.nodeId
  obtain rfl : e.graph = g := Except.ok.inj (e.accepted.symm.trans hg)
  exact hread

/-- A text has one tree at most. -/
theorem HasTree.unique {e : Listing} {d d' : Derivation} (h : e.HasTree d) (h' : e.HasTree d') :
    d = d' := by
  simpa using (derivesAll_tokenize.1 h).unique (derivesAll_tokenize.1 h')

/-- A text without a tree is the empty one, and its graph is empty. -/
theorem graph_eq_empty_or_hasTree (e : Listing) : e.graph = {} ∨ ∃ d, e.HasTree d := by
  refine (Graph.eq_empty_or_exists_reading e.accepted).imp_right fun ⟨d, hd, _⟩ => ?_
  exact ⟨d, derivesAll_tokenize.2 hd⟩

/-- The graph hangs on the node of the course. -/
theorem rooted (e : Listing) : e.graph.Rooted e.course.nodeId :=
  Graph.rooted_of_ofText e.accepted

/-- The courses and their leaves can be told apart, and conjunctions within disjunctions stand in
brackets. Two leaves at a time are told apart, so it is enough to look at two courses at a time. -/
structure Apart (es : List Listing) : Prop where
  keys : (es.map fun e => e.course.key).Nodup
  subjects : ∀ e ∈ es, '#' ∉ e.course.subject.toList ∧ PlainStart e.course.subject
  leaves : ∀ e ∈ es, ∀ e' ∈ es, ∀ d d', e.HasTree d → e'.HasTree d' →
    IdsApart (d.leaves ++ d'.leaves)
  brackets : ∀ e ∈ es, ∀ d, e.HasTree d → d.Bracketed

end Listing

/-- The id of a course node begins with no bracket and no connective if the code of the subject area
does not. -/
theorem plainStart_courseNodeId {subject : String} (h : PlainStart subject) (catalog : String) :
    PlainStart (courseNodeId subject catalog) := by
  intro c hc
  rw [toList_courseNodeId] at hc
  cases hsubject : subject.toList with
  | nil =>
    obtain rfl : '#' = c := by simpa [hsubject] using hc
    rfl
  | cons x xs =>
    refine h c ?_
    rw [hsubject] at hc ⊢
    exact hc

namespace Listing.Apart

variable {es : List Listing} (h : Apart es) {e e' : Listing} (he : e ∈ es) (he' : e' ∈ es)

include h he

/-- The node of a listed course begins with no bracket and no connective. -/
theorem plainStart_nodeId : PlainStart e.course.nodeId :=
  plainStart_courseNodeId (h.subjects e he).2 e.course.catalog

/-- A course that an entry records, itself or one that its text names, has no number sign in the
code of its subject area, and its node begins with no bracket and no connective. -/
theorem course_plain {c : Course} (hc : c ∈ e.course :: e.graph.courses) :
    '#' ∉ c.subject.toList ∧ PlainStart c.nodeId := by
  rcases List.mem_cons.1 hc with rfl | hc
  · exact ⟨(h.subjects e he).1, h.plainStart_nodeId he⟩
  · rcases e.graph_eq_empty_or_hasTree with hempty | ⟨d, hd⟩
    · simp [hempty] at hc
    · -- The node of a named course has the id of the leaf.
      obtain ⟨l, hl, hcourse⟩ := (hd.reading.courses c).1 hc
      obtain ⟨hnode, hsubject⟩ := Leaf.course?_eq_some hcourse
      rw [hnode]
      exact ⟨hsubject, ((derivesAll_tokenize.1 hd).startsPlain hl).plainStart⟩

include he'

/-- Courses with one node are one. -/
theorem eq_of_nodeId_eq (hnode : e.course.nodeId = e'.course.nodeId) : e = e' := by
  obtain ⟨hsubject, hcatalog⟩ :=
    courseNodeId_injective (h.subjects e he).1 (h.subjects e' he').1 hnode
  have hkey : e.course.key = e'.course.key := Prod.ext hsubject hcatalog
  exact List.inj_on_of_nodup_map h.keys he he' hkey

/-- A relation of one course from a chain that another has too has its like there. -/
theorem ends_mem {r : Relation} (hr : r ∈ e'.graph.relations)
    (hchain : NodeKind.ofId r.source ≠ .value) (hnode : r.source ∈ e.graph.nodes.map Node.id) :
    r.ends ∈ e.graph.relations.map Relation.ends := by
  rcases e.graph_eq_empty_or_hasTree with hempty | ⟨d, hd⟩
  · simp [hempty] at hnode
  rcases e'.graph_eq_empty_or_hasTree with hempty | ⟨d', hd'⟩
  · simp [hempty] at hr
  have hderives := derivesAll_tokenize.1 hd
  have hderives' := derivesAll_tokenize.1 hd'
  have hread : d.toExpr.Readable (d'.leaves ++ d.leaves) :=
    (hderives.readable (h.brackets e he d hd)).mono (List.subset_append_right _ _)
  have hread' : d'.toExpr.Readable (d'.leaves ++ d.leaves) :=
    (hderives'.readable (h.brackets e' he' d' hd')).mono (List.subset_append_left _ _)
  exact hd'.reading.exists_relation_like hd.reading (h.plainStart_nodeId he')
    (h.leaves e' he' e he d' d hd' hd) (hderives'.startsPlain_append hderives) hread' hread hr
    hchain hnode

end Listing.Apart

/-! ## The store of a run -/

/-- The tables hold the listed courses and their graphs, and what they hold besides is no relation
and no node of a listed course. -/
structure Stored (es : List Listing) (t : Tables) : Prop where
  /-- The courses can be told apart. -/
  coursesApart : t.CoursesApart
  /-- The listed courses are there. -/
  courses : ∀ e ∈ es, ∃ d ∈ t.courses, d.key = e.course.key ∧ d.nodeId = e.course.nodeId
  /-- No node of a course is that of a chain. -/
  courseNodes : ∀ id, t.isCourseNode id → NodeKind.ofId id = .value
  /-- The nodes of the graphs are there. -/
  nodes : ∀ e ∈ es, ∀ id ∈ e.graph.nodes.map Node.id, id ∈ t.nodes.map Node.id
  /-- The relations are those of the graphs. -/
  relations : ∀ r, r ∈ t.relations ↔ ∃ e ∈ es, r ∈ e.graph.relations

/-- The courses of a run can be told apart, by their keys and by their nodes. -/
theorem Tables.Holds.coursesApart {t : Tables} {steps : List Step} (h : t.Holds steps) :
    t.CoursesApart := by
  refine ⟨h.keys_apart, h.keys_apart.of_map.map_on fun d hd d' hd' hnode => ?_⟩
  have hkey : d.key = d'.key :=
    h.keyed.key_eq hd (h.keyed.subjects d' hd') (hnode.trans (h.keyed.nodeIds d' hd'))
  exact List.inj_on_of_nodup_map h.keys_apart hd hd' hkey

/-- The tables that hold what the listed courses bring are the store of the run. -/
theorem Listing.Apart.stored {es : List Listing} (h : Apart es) {t : Tables}
    (ht : t.Holds (es.flatMap Listing.steps)) : Stored es t := by
  have hcourses (key : String × String) : key ∈ t.courses.map CourseRow.key ↔
      ∃ e ∈ es, ∃ c ∈ e.course :: e.graph.courses, c.key = key := by
    rw [ht.courses, Listing.flatMap_coursesOf_steps, List.map_flatMap, List.mem_flatMap]
    exact exists_congr fun e => and_congr_right fun _ => List.mem_map
  have hnode {d : CourseRow} {c : Course} (hd : d ∈ t.courses) (hkey : d.key = c.key) :
      d.nodeId = c.nodeId := by
    obtain ⟨hsubject, hcatalog⟩ := Prod.mk.inj hkey
    rw [ht.keyed.nodeIds d hd, hsubject, hcatalog, Course.nodeId]
  constructor
  · exact ht.coursesApart
  · intro e he
    have hkey := (hcourses e.course.key).2 ⟨e, he, e.course, List.mem_cons_self, rfl⟩
    obtain ⟨d, hd, hkey⟩ := List.mem_map.1 hkey
    exact ⟨d, hd, hkey, hnode hd hkey⟩
  · -- The key of a stored course is that of a course of some entry, and so is its node.
    intro id hid
    obtain ⟨d, hd, rfl⟩ := List.mem_map.1 (Tables.isCourseNode_iff.1 hid)
    obtain ⟨e, he, c, hc, hkey⟩ := (hcourses d.key).1 (List.mem_map_of_mem hd)
    rw [hnode hd hkey.symm]
    exact NodeKind.ofId_of_plainStart (h.course_plain he hc).2
  · intro e he id hid
    rw [ht.nodes, Listing.flatMap_nodesOf_steps, List.map_flatMap, List.mem_flatMap]
    exact .inl ⟨e, he, List.mem_cons_of_mem _ hid⟩
  · intro r
    rw [ht.relations, Listing.flatMap_relationsOf_steps, List.mem_flatMap]

/-- What a run of listed courses brings is saved to an empty store, in whatever order its steps were
taken. -/
theorem Listing.Apart.exists_saved {es : List Listing} (h : Apart es) {steps : List Step}
    (hsteps : steps.Perm (es.flatMap Listing.steps)) :
    ∃ t counts, Stored es t ∧
      (Accumulator.run {} steps).saved = ({ committed := t, working := t }, .ok counts) := by
  have hsubjects : ∀ c ∈ steps.flatMap Step.coursesOf, '#' ∉ c.subject.toList := by
    intro c hc
    rw [(hsteps.flatMap_right _).mem_iff, Listing.flatMap_coursesOf_steps] at hc
    obtain ⟨e, he, hc⟩ := List.mem_flatMap.1 hc
    exact (h.course_plain he hc).1
  obtain ⟨t, counts, ht, hsave⟩ := Accumulator.exists_saved_run hsubjects
  exact ⟨t, counts, h.stored (ht.perm hsteps), hsave⟩

/-! ## The walk from a listed course -/

namespace Stored

variable {es : List Listing} {t : Tables} (h : Stored es t)

include h

/-- A walk goes on at a chain. -/
theorem goesThrough_of_chain {id : String} (hchain : NodeKind.ofId id ≠ .value) :
    t.goesThrough false id := by
  have hcourse : ¬ t.isCourseNode id := fun hcourse => hchain (h.courseNodes id hcourse)
  simpa [Tables.goesThrough] using hcourse

variable (hapart : Listing.Apart es) {e : Listing} (he : e ∈ es)

include hapart he

/-- The stored relations from the node of a listed course are its own, and lead to its root. -/
theorem root_of_source {r : Relation} (hr : r ∈ t.relations)
    (hsource : r.source = e.course.nodeId) :
    r ∈ e.graph.relations ∧ e.graph.root = some r.target := by
  obtain ⟨e', he', hr⟩ := (h.relations r).1 hr
  rcases e'.rooted.relations r hr with ⟨howner, hroot⟩ | ⟨hchain, -⟩
  · obtain rfl := hapart.eq_of_nodeId_eq he he' (hsource.symm.trans howner)
    exact ⟨hr, hroot⟩
  · -- The node of a course is no chain.
    rw [hsource] at hchain
    exact absurd (NodeKind.ofId_of_plainStart (hapart.plainStart_nodeId he)) hchain

/-- A stored relation from a node of the course at which a walk goes on has its like in the graph of
the course. -/
theorem ends_of_source {r : Relation} (hr : r ∈ t.relations)
    (hthrough : t.goesThrough false r.source) (hnode : r.source ∈ e.graph.nodes.map Node.id) :
    r.ends ∈ e.graph.relations.map Relation.ends := by
  obtain ⟨e', he', hr⟩ := (h.relations r).1 hr
  rcases e'.rooted.relations r hr with ⟨howner, -⟩ | ⟨hchain, -⟩
  · -- A walk does not go on at the node of a listed course.
    obtain ⟨d, hd, -, hd'⟩ := h.courses e' he'
    have hcourse : t.isCourseNode r.source :=
      Tables.isCourseNode_iff.2 (List.mem_map.2 ⟨d, hd, hd'.trans howner.symm⟩)
    simp [Tables.goesThrough, hcourse] at hthrough
  · exact hapart.ends_mem he he' hr hchain hnode

/-- Relations lead from a listed course to the nodes of its graph and to no others. -/
theorem leads_iff {id : String} :
    t.Leads false e.course.nodeId id ↔ id ∈ e.graph.nodes.map Node.id := by
  have hown : ∀ r ∈ e.graph.relations, r ∈ t.relations := fun r hr => (h.relations r).2 ⟨e, he, hr⟩
  constructor
  · -- The relations on the way may be those of other courses, but each starts at a node of the
    -- course's own graph, where its like leads to the same target.
    intro hleads
    induction hleads with
    | one source stored =>
      exact (e.rooted.nodes _).2 (.root (h.root_of_source hapart he stored source).2)
    | @more r way through stored ih =>
      obtain ⟨r', hr', hends⟩ := List.mem_map.1 (h.ends_of_source hapart he stored through ih)
      obtain ⟨-, htarget⟩ := Prod.mk.inj hends
      rw [← htarget, e.rooted.nodes]
      exact e.rooted.reaches_target hr'
  · -- A graph is reached through chains, and a walk goes on at all of them.
    rw [e.rooted.nodes]
    intro hreached
    induction hreached with
    | @root id root =>
      exact @Tables.Leads.one t false _ { source := e.course.nodeId, target := id } rfl
        (hown _ (e.rooted.root id root))
    | along stored chain source ih => exact .more ih (h.goesThrough_of_chain chain) (hown _ stored)

/-- The first stored relation from a listed course leads to its root, if it has one. -/
theorem head?_outgoing :
    (t.outgoing e.course.nodeId).head?.map Relation.target = e.graph.root := by
  have hroot : ∀ r ∈ t.outgoing e.course.nodeId, e.graph.root = some r.target := by
    intro r hr
    obtain ⟨hstored, hsource⟩ := Tables.mem_outgoing.1 hr
    exact (h.root_of_source hapart he hstored hsource).2
  cases houtgoing : t.outgoing e.course.nodeId with
  | cons r rs =>
    rw [hroot r (by rw [houtgoing]; exact List.mem_cons_self)]
    rfl
  | nil =>
    cases hnone : e.graph.root with
    | none => rfl
    | some id =>
      have hstored := (h.relations _).2 ⟨e, he, e.rooted.root id hnone⟩
      have hmem := Tables.mem_outgoing.2 ⟨hstored, rfl⟩
      rw [houtgoing] at hmem
      exact absurd hmem List.not_mem_nil

/-- The requisites of a listed course have its root, the nodes of its graph, its own aside, and the
stored relations with ends that a relation of its graph has. -/
theorem exists_requisitesFor :
    ∃ reqs, t.requisitesFor e.course.key false = some reqs ∧ reqs.root = e.graph.root ∧
      (∀ id, id ∈ reqs.nodes.map Node.id ↔
        id ∈ e.graph.nodes.map Node.id ∧ id ≠ e.course.nodeId) ∧
      ∀ r, r ∈ reqs.relations ↔
        r ∈ t.relations ∧ r.ends ∈ e.graph.relations.map Relation.ends := by
  obtain ⟨d, hd, hkey, hnode⟩ := h.courses e he
  obtain ⟨reqs, hreqs⟩ := Tables.exists_requisitesFor h.coursesApart hd false
  refine ⟨reqs, hkey ▸ hreqs, ?_, fun id => ?_, fun r => ?_⟩
  · rw [Tables.root_of_requisitesFor h.coursesApart hd hreqs, hnode, h.head?_outgoing hapart he]
  · rw [Tables.mem_nodes_of_requisitesFor h.coursesApart hd hreqs, hnode, h.leads_iff hapart he]
    constructor
    · rintro ⟨⟨hne, hid⟩, -⟩
      exact ⟨hid, hne⟩
    · rintro ⟨hid, hne⟩
      exact ⟨⟨hne, hid⟩, h.nodes e he id hid⟩
  · rw [Tables.mem_relations_of_requisitesFor h.coursesApart hd hreqs, hnode,
      h.leads_iff hapart he]
    refine and_congr_right fun hr => ?_
    constructor
    · rintro (hsource | ⟨hid, hthrough⟩)
      · exact List.mem_map_of_mem (h.root_of_source hapart he hr hsource).1
      · exact h.ends_of_source hapart he hr hthrough hid
    · -- The course's own relation shows that its source is left from.
      intro hends
      obtain ⟨r', hr', hends⟩ := List.mem_map.1 hends
      obtain ⟨hsource, -⟩ := Prod.mk.inj hends
      rw [← hsource]
      rcases e.rooted.relations r' hr' with ⟨howner, -⟩ | ⟨hchain, hreached⟩
      · exact .inl howner
      · exact .inr ⟨(e.rooted.nodes _).2 hreached, h.goesThrough_of_chain hchain⟩

/-- A listed course is among the dependents of the nodes of its graph, its own aside. -/
theorem exists_dependentsOf_iff (id : String) :
    (∃ deps, t.dependentsOf id false = some deps ∧
        e.course.key ∈ deps.map CourseRow.key) ↔
      id ∈ e.graph.nodes.map Node.id ∧ id ≠ e.course.nodeId := by
  obtain ⟨d, hd, hkey, hnode⟩ := h.courses e he
  constructor
  · rintro ⟨deps, hdeps, hmem⟩
    obtain ⟨d', hd', hkey'⟩ := List.mem_map.1 hmem
    have hstored := Tables.mem_courses_of_dependentsOf hdeps hd'
    obtain rfl : d' = d :=
      List.inj_on_of_nodup_map h.coursesApart.keys hstored hd (hkey'.trans hkey.symm)
    rw [Tables.mem_of_dependentsOf h.coursesApart hd hdeps, hnode, h.leads_iff hapart he] at hd'
    exact ⟨hd'.2, hd'.1.symm⟩
  · rintro ⟨hid, hne⟩
    obtain ⟨deps, hdeps⟩ := (Tables.exists_dependentsOf_iff false).2 (h.nodes e he id hid)
    refine ⟨deps, hdeps, ?_⟩
    rw [← hkey]
    refine List.mem_map_of_mem ((Tables.mem_of_dependentsOf h.coursesApart hd hdeps).2 ?_)
    rw [hnode, h.leads_iff hapart he]
    exact ⟨hne.symm, hid⟩

end Stored

/-! ## Two courses that share a node -/

/-- The tree of `A&B`, where `A` may be enforced. -/
def Derivation.pair (enforced : Bool) : Derivation :=
  .chain .or
    (.chain .and (.leaf ⟨"A", false, enforced, false, false, ""⟩) [.leaf (.bare "B")]) []

/-- The text of `A&B`, where `A` may be enforced. -/
def Derivation.pairText (enforced : Bool) : String :=
  if enforced then "A{ftff}&B{ffff}" else "A{ffff}&B{ffff}"

/-- The tree derives the text. -/
theorem Derivation.derives_pair (enforced : Bool) :
    Derives .expression (tokens (pairText enforced)) [pair enforced] := by
  cases enforced with
  | false =>
    exact .lone (@Derives.chain .and [⟨.requisite, "A{ffff}", 0⟩] _ _ _ (.leaf rfl rfl)
      (@Derives.more .and ⟨.and, "&", 7⟩ [⟨.requisite, "B{ffff}", 8⟩] _ _ _ rfl (.leaf rfl rfl)
        .none))
  | true =>
    exact .lone (@Derives.chain .and [⟨.requisite, "A{ftff}", 0⟩] _ _ _ (.leaf rfl rfl)
      (@Derives.more .and ⟨.and, "&", 7⟩ [⟨.requisite, "B{ffff}", 8⟩] _ _ _ rfl (.leaf rfl rfl)
        .none))

/-- It has the graph in which `A` and `B` hang on one node. -/
theorem Derivation.graph_pair (enforced : Bool) :
    (pair enforced).toExpr.graph (if enforced then "M#2" else "M#1") =
      { nodes := [⟨"A", .value⟩, ⟨"B", .value⟩, ⟨"&AB", .and⟩]
        relations :=
          [⟨"&AB", "A", some enforced, some false, some false, some ""⟩,
            ⟨"&AB", "B", some false, some false, some false, some ""⟩,
            { source := if enforced then "M#2" else "M#1", target := "&AB" }]
        root := some "&AB" } := by
  rw [pair, toExpr_lone, toExpr_chain]
  simp only [List.map, toExpr, Expr.graph, Expr.readNodes, Expr.readNodesOf, Expr.storedNodes,
    Expr.waitingNodes, Expr.readRelations, Expr.readRelationsOf, Expr.storedRelations,
    Expr.memberRelations]
  cases enforced with
  | false => rfl
  | true => rfl

namespace Listing

/-- The courses `M 1` and `M 2`, which both need `A` and `B`. Of them, only `M 2` enforces `A`. -/
def pair (enforced : Bool) : Listing where
  course := { subject := "M", catalog := if enforced then "2" else "1" }
  text := Derivation.pairText enforced
  graph :=
    { nodes := [⟨"A", .value⟩, ⟨"B", .value⟩, ⟨"&AB", .and⟩]
      relations :=
        [⟨"&AB", "A", some enforced, some false, some false, some ""⟩,
          ⟨"&AB", "B", some false, some false, some false, some ""⟩,
          { source := if enforced then "M#2" else "M#1", target := "&AB" }]
      root := some "&AB" }
  accepted := by
    have hne : Derivation.pairText enforced ≠ "" := by cases enforced <;> decide
    have hnode : courseNodeId "M" (if enforced then "2" else "1") =
        if enforced then "M#2" else "M#1" := by
      cases enforced <;> rfl
    refine (Graph.ofText_eq_ok_iff hne).2 ⟨_, Derivation.derives_pair enforced, ?_⟩
    rw [← Derivation.graph_pair, ← hnode]
    rfl

/-- The tree of a text that was accepted for one of the two courses. -/
theorem exists_eq_pair {e : Listing} (he : e ∈ [pair false, pair true]) {d : Derivation}
    (hd : e.HasTree d) : ∃ enforced, d = .pair enforced := by
  have hpair (enforced : Bool) : (pair enforced).HasTree (.pair enforced) :=
    derivesAll_tokenize.2 (Derivation.derives_pair enforced)
  rcases List.mem_pair.1 he with rfl | rfl
  · exact ⟨false, hd.unique (hpair false)⟩
  · exact ⟨true, hd.unique (hpair true)⟩

/-- The two courses can be told apart, although they share the node of `A&B`. -/
theorem apart_pair : Apart [pair false, pair true] := by
  have hplain : PlainStart "M" := by simp [PlainStart, structural?]
  constructor
  · decide
  · intro e he
    rcases List.mem_pair.1 he with rfl | rfl
    · exact ⟨by decide, hplain⟩
    · exact ⟨by decide, hplain⟩
  · intro e he e' he' d d' hd hd'
    obtain ⟨b, rfl⟩ := exists_eq_pair he hd
    obtain ⟨b', rfl⟩ := exists_eq_pair he' hd'
    have hleaves : (Derivation.pair b).leaves ++ (Derivation.pair b').leaves =
        [⟨"A", false, b, false, false, ""⟩, .bare "B", ⟨"A", false, b', false, false, ""⟩,
          .bare "B"] := rfl
    rw [hleaves]
    constructor
    · simp [Leaf.bare, structural?]
    · simp [Leaf.bare]
  · intro e he d hd
    obtain ⟨b, rfl⟩ := exists_eq_pair he hd
    unfold Derivation.Bracketed
    cases b <;> decide

end Listing

/-! ## What the store answers -/

namespace Listing

variable {es : List Listing}

/-- After a run of listed courses, each has the requisites that its own text gives it: its root, its
nodes and the ends of its relations; and it depends on the nodes of its own graph. It does not
matter in which order the steps of the run were taken. -/
theorem Apart.structure_saved (h : Apart es) {steps : List Step}
    (hsteps : steps.Perm (es.flatMap Listing.steps)) :
    ∃ t counts,
      (Accumulator.run {} steps).saved = ({ committed := t, working := t }, .ok counts) ∧
      ∀ e ∈ es,
        (∃ reqs, t.requisitesFor e.course.key false = some reqs ∧
          reqs.root = e.graph.root ∧
          (∀ id, id ∈ reqs.nodes.map Node.id ↔
            id ∈ e.graph.nodes.map Node.id ∧ id ≠ e.course.nodeId) ∧
          ∀ ends, ends ∈ reqs.relations.map Relation.ends ↔
            ends ∈ e.graph.relations.map Relation.ends) ∧
        ∀ id,
          (∃ deps, t.dependentsOf id false = some deps ∧
            e.course.key ∈ deps.map CourseRow.key) ↔
          id ∈ e.graph.nodes.map Node.id ∧ id ≠ e.course.nodeId := by
  obtain ⟨t, counts, hstored, hsaved⟩ := h.exists_saved hsteps
  refine ⟨t, counts, hsaved, fun e he => ⟨?_, hstored.exists_dependentsOf_iff h he⟩⟩
  obtain ⟨reqs, hreqs, hroot, hnodes, hrelations⟩ := hstored.exists_requisitesFor h he
  refine ⟨reqs, hreqs, hroot, hnodes, fun ends => ?_⟩
  constructor
  · intro hends
    obtain ⟨r, hr, rfl⟩ := List.mem_map.1 hends
    exact ((hrelations r).1 hr).2
  · intro hends
    obtain ⟨r, hr, rfl⟩ := List.mem_map.1 hends
    exact List.mem_map_of_mem
      ((hrelations r).2 ⟨(hstored.relations r).2 ⟨e, he, hr⟩, List.mem_map_of_mem hr⟩)

/-- The structure of `M 1` is that of `A&B`, and `M 2` is among the dependents of the node that the
two share. -/
theorem Apart.structure_saved_pair :
    Apart [pair false, pair true] ∧
      ∃ t counts,
        (Accumulator.run {} ([pair false, pair true].flatMap Listing.steps)).saved =
          ({ committed := t, working := t }, .ok counts) ∧
        (∃ reqs, t.requisitesFor ("M", "1") false = some reqs ∧ reqs.root = some "&AB" ∧
          ∀ ends, ends ∈ reqs.relations.map Relation.ends ↔
            ends ∈ [("&AB", "A"), ("&AB", "B"), ("M#1", "&AB")]) ∧
        ∃ deps, t.dependentsOf "&AB" false = some deps ∧
          ("M", "2") ∈ deps.map CourseRow.key := by
  obtain ⟨t, counts, hsaved, hall⟩ := apart_pair.structure_saved (List.Perm.refl _)
  obtain ⟨⟨reqs, hreqs, hroot, -, hends⟩, -⟩ := hall (pair false) List.mem_cons_self
  obtain ⟨-, hdeps⟩ := hall (pair true) (List.mem_cons_of_mem _ List.mem_cons_self)
  refine ⟨apart_pair, t, counts, hsaved, ⟨reqs, hreqs, hroot, hends⟩, ?_⟩
  exact (hdeps "&AB").2 ⟨by decide, by decide⟩

/-- After a run of listed courses, the requisites of each have the relations, whichever course they
come from, whose ends are those of a relation of its own. -/
theorem Apart.relations_saved (h : Apart es) {steps : List Step}
    (hsteps : steps.Perm (es.flatMap Listing.steps)) :
    ∃ t counts,
      (Accumulator.run {} steps).saved = ({ committed := t, working := t }, .ok counts) ∧
      ∀ e ∈ es, ∃ reqs, t.requisitesFor e.course.key false = some reqs ∧
        ∀ r, r ∈ reqs.relations ↔
          (∃ e' ∈ es, r ∈ e'.graph.relations) ∧ r.ends ∈ e.graph.relations.map Relation.ends := by
  obtain ⟨t, counts, hstored, hsaved⟩ := h.exists_saved hsteps
  refine ⟨t, counts, hsaved, fun e he => ?_⟩
  obtain ⟨reqs, hreqs, -, -, hrelations⟩ := hstored.exists_requisitesFor h he
  refine ⟨reqs, hreqs, fun r => ?_⟩
  rw [hrelations, hstored.relations]

/-- The requisites of `M 1` have the relations of both courses between the nodes of its own. -/
theorem Apart.relations_saved_pair :
    Apart [pair false, pair true] ∧
      ∃ t counts,
        (Accumulator.run {} ([pair false, pair true].flatMap Listing.steps)).saved =
          ({ committed := t, working := t }, .ok counts) ∧
        ∃ reqs, t.requisitesFor ("M", "1") false = some reqs ∧
          ∀ r, r ∈ reqs.relations ↔
            (∃ e ∈ [pair false, pair true], r ∈ e.graph.relations) ∧
              r.ends ∈ [("&AB", "A"), ("&AB", "B"), ("M#1", "&AB")] := by
  obtain ⟨t, counts, hsaved, hall⟩ := apart_pair.relations_saved (List.Perm.refl _)
  obtain ⟨reqs, hreqs, hrelations⟩ := hall (pair false) List.mem_cons_self
  exact ⟨apart_pair, t, counts, hsaved, reqs, hreqs, hrelations⟩

/-- So `A` shows as enforced among the requisites of `M 1`, although the text of `M 1` says that it
is not. -/
theorem enforced_by_other_course :
    Apart [pair false, pair true] ∧
      ∃ t counts,
        (Accumulator.run {} ([pair false, pair true].flatMap Listing.steps)).saved =
          ({ committed := t, working := t }, .ok counts) ∧
        ∃ reqs, t.requisitesFor ("M", "1") false = some reqs ∧
          ∃ r ∈ reqs.relations, r.enforced = some true ∧ r ∉ (pair false).graph.relations := by
  obtain ⟨t, counts, hstored, hsaved⟩ := apart_pair.exists_saved (List.Perm.refl _)
  obtain ⟨reqs, hreqs, -, -, hrelations⟩ :=
    hstored.exists_requisitesFor apart_pair List.mem_cons_self
  have hother : ⟨"&AB", "A", some true, some false, some false, some ""⟩ ∈ t.relations :=
    (hstored.relations _).2
      ⟨pair true, List.mem_cons_of_mem _ List.mem_cons_self, List.mem_cons_self⟩
  refine ⟨apart_pair, t, counts, hsaved, reqs, hreqs, _, (hrelations _).2 ⟨hother, ?_⟩, rfl, ?_⟩
  · decide
  · decide

end Listing

end Requisite
