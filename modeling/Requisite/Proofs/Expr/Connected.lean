import Requisite.Proofs.Expr.Rooted
import Requisite.Proofs.Expr.Sharing

/-!
# Graphs are closed and connected

While a text is read, leaves and bracketed chains are recorded before anything leads to them, and
chains without brackets wait. In the end nothing is left over (`Graph.connected_of_ofText`): the
ends of relations are nodes, the owner aside, from every chain leads a relation, and all nodes are
reached from the root.

What is reached does not depend on the order of recording, and is read off the tree
(`Reading.rooted`). That the owner has one relation and that it is the last one does depend on it
(`Expr.exists_relations_eq`): all relations from chains are recorded before it, and none of them is
from the owner, if the id of the owner is not that of a chain.
-/

namespace Requisite

/-- A chain has a member. -/
theorem Derivation.exists_member {d : Derivation} {bracketed : Bool} {c : Derivation.Occurrence}
    (hc : c ∈ d.chains bracketed) : ∃ m, m ∈ c.members := by
  refine chains_induct (motive := fun _ _ => ∃ m, m ∈ c.members) ?_ ?_ ?_ ?_ hc
  · exact fun _ _ h => h
  · exact fun _ _ _ h => h
  · intro _ _ head second tail hmembers
    rw [hmembers]
    exact ⟨head, List.mem_cons_self⟩
  · exact fun _ _ _ _ _ _ _ h => h

/-- A connective makes no single requirement. -/
theorem Connective.kind_ne_value (op : Connective) : op.kind ≠ .value := by
  cases op <;> simp [kind]

/-! ## The relations of an owner -/

/-- The last relation of a graph is that from its owner to its root, and the others are from chains,
if the id of the owner begins with no bracket and no connective. -/
theorem Expr.exists_relations_eq (e : Expr) {owner : String} (howner : PlainStart owner) :
    ∃ rs, (e.graph owner).relations = rs ++ [{ source := owner, target := e.nodeId }] ∧
      ∀ r ∈ rs, r.source ≠ owner := by
  have hchain : ∀ r ∈ firsts id (e.readRelations ++ e.storedRelations e.canonicalId),
      r.source ≠ owner := by
    intro r hr heq
    obtain ⟨c, hc, m, -, rfl⟩ := (mem_recordedRelations e _ r).1 (mem_firsts_id.1 hr)
    have hkind : NodeKind.ofId c.id = c.op.kind := ofId_of_mem_chains hc
    rw [edge, Relation.source_between] at heq
    rw [heq, NodeKind.ofId_of_plainStart howner] at hkind
    exact c.op.kind_ne_value hkind.symm
  refine ⟨_, ?_, hchain⟩
  -- The owner's relation is new where it arrives, so it goes to the end.
  rw [graph, firsts_append_singleton]
  exact addNew_id_of_not_mem fun hmem => hchain _ hmem rfl

/-! ## Graphs in one piece -/

/-- The graph hangs on its owner by its last relation, and on its root by all the others. -/
structure Graph.Connected (owner : String) (g : Graph) : Prop where
  /-- The last relation is that from the owner to the root, it has no attributes, and the owner has
  no other. The root is a node. -/
  owned : ∃ root rs, g.root = some root ∧ root ∈ g.nodes.map Node.id ∧
    g.relations = rs ++ [{ source := owner, target := root }] ∧ ∀ r ∈ rs, r.source ≠ owner
  /-- Every relation leads to a node. -/
  targets : ∀ r ∈ g.relations, r.target ∈ g.nodes.map Node.id
  /-- It comes from the owner or from a chain. -/
  sources : ∀ r ∈ g.relations, r.source = owner ∨ ∃ n ∈ g.nodes, n.id = r.source ∧ n.kind ≠ .value
  /-- Every node is reached from the root, along relations from chains. -/
  reached : ∀ n ∈ g.nodes, g.Reaches n.id
  /-- From every chain leads a relation. -/
  chains : ∀ n ∈ g.nodes, n.kind ≠ .value → ∃ r ∈ g.relations, r.source = n.id
  /-- The courses have nodes, which are single requirements. -/
  courses : ∀ c ∈ g.courses, ⟨c.nodeId, .value⟩ ∈ g.nodes
  /-- No two courses share a node. -/
  courses_apart : (g.courses.map Course.nodeId).Nodup

namespace Reading

variable {owner : String} {d : Derivation} {g : Graph}

/-- The source of a relation is the owner or the node of a chain. -/
theorem source_cases (h : Reading owner d g) {r : Relation} (hr : r ∈ g.relations) :
    r.source = owner ∨ ∃ n ∈ g.nodes, n.id = r.source ∧ n.kind ≠ .value := by
  rcases (h.relations r).1 hr with rfl | ⟨c, hc, m, -, rfl⟩
  · exact .inl rfl
  · rw [Relation.source_between]
    exact .inr ⟨⟨c.id, c.op.kind⟩, (h.nodes _).2 (.inr ⟨c, hc, rfl⟩), rfl, c.op.kind_ne_value⟩

/-- From a node that is a chain leads a relation. -/
theorem exists_relation_from (h : Reading owner d g) {n : Node} (hn : n ∈ g.nodes)
    (hkind : n.kind ≠ .value) : ∃ r ∈ g.relations, r.source = n.id := by
  obtain ⟨c, hc, hid⟩ := h.exists_chain_of_kind_ne hn hkind
  obtain ⟨m, hm⟩ := Derivation.exists_member hc
  refine ⟨_, h.relation_to_member hc hm, ?_⟩
  rw [Relation.source_between, hid]

/-- The node of a course is that of the leaf that names it. -/
theorem node_of_course (h : Reading owner d g) {c : Course} (hc : c ∈ g.courses) :
    ⟨c.nodeId, .value⟩ ∈ g.nodes := by
  obtain ⟨l, hl, hcourse⟩ := (h.courses c).1 hc
  rw [(Leaf.course?_eq_some hcourse).1]
  exact (h.nodes _).2 (.inl ⟨l, hl, rfl⟩)

/-- Courses are told apart by their nodes, since no subject area has a number sign in its code. -/
theorem nodup_nodeIds (h : Reading owner d g) : (g.courses.map Course.nodeId).Nodup := by
  have hsubject : ∀ c ∈ g.courses, '#' ∉ c.subject.toList := by
    intro c hc
    obtain ⟨l, -, hcourse⟩ := (h.courses c).1 hc
    exact (Leaf.course?_eq_some hcourse).2
  refine h.courses_apart.of_map.map_on fun c hc c' hc' hnode => ?_
  obtain ⟨hsubjects, hcatalogs⟩ :=
    courseNodeId_injective (hsubject c hc) (hsubject c' hc') hnode
  exact List.inj_on_of_nodup_map h.courses_apart hc hc' (Prod.ext hsubjects hcatalogs)

end Reading

/-- From a node of an accepted text that is a chain leads a relation. -/
theorem Graph.exists_relation_from {owner text : String} {g : Graph}
    (h : Graph.ofText owner text = .ok g) {n : Node} (hn : n ∈ g.nodes) (hkind : n.kind ≠ .value) :
    ∃ r ∈ g.relations, r.source = n.id := by
  rcases eq_empty_or_exists_reading h with rfl | ⟨d, -, hread⟩
  · simp at hn
  · exact hread.exists_relation_from hn hkind

/-- The graph of a text that is accepted and not empty is in one piece, which hangs on its owner, if
the id of the owner begins with no bracket and no connective. -/
theorem Graph.connected_of_ofText {owner text : String} {g : Graph} (howner : PlainStart owner)
    (hne : text ≠ "") (h : Graph.ofText owner text = .ok g) : g.Connected owner := by
  obtain ⟨d, hd, rfl⟩ := (Graph.ofText_eq_ok_iff hne).1 h
  have hread : Reading owner d (d.toExpr.graph owner) :=
    d.reading_graph owner fun l hl => hd.startsPlain hl
  have hrooted := hread.rooted
  obtain ⟨rs, hrelations, hothers⟩ := d.toExpr.exists_relations_eq howner
  constructor
  · exact ⟨_, rs, rfl, (hrooted.nodes _).2 (.root rfl), hrelations, hothers⟩
  · exact fun r hr => (hrooted.nodes _).2 (hrooted.reaches_target hr)
  · exact fun r hr => hread.source_cases hr
  · exact fun n hn => (hrooted.nodes _).1 (List.mem_map_of_mem hn)
  · exact fun n hn hkind => hread.exists_relation_from hn hkind
  · exact fun c hc => hread.node_of_course hc
  · exact hread.nodup_nodeIds

namespace Derivation

/-- The tree of `(M#1&A)|M#1`, where `M#1` is marked as a course. -/
def courseTwice : Derivation :=
  .chain .or
    (.chain .and
      (.group (.chain .or
        (.chain .and (.leaf ⟨"M#1", true, false, false, false, ""⟩) [.leaf (.bare "A")]) [])) [])
    [.chain .and (.leaf ⟨"M#1", true, false, false, false, ""⟩) []]

/-- It is derived. -/
theorem derives_courseTwice :
    Derives .expression (tokens "(M#1{tfff}&A{ffff})|M#1{tfff}") [courseTwice] := by
  have hinner : Derives .expression
      [⟨.requisite, "M#1{tfff}", 1⟩, ⟨.and, "&", 10⟩, ⟨.requisite, "A{ffff}", 11⟩]
      [.chain .or
        (.chain .and (.leaf ⟨"M#1", true, false, false, false, ""⟩) [.leaf (.bare "A")]) []] :=
    .lone (@Derives.chain .and [_] _ _ _ (.leaf rfl rfl)
      (@Derives.more .and _ [_] _ _ _ rfl (.leaf rfl rfl) .none))
  have hlast : Derives .term [⟨.requisite, "M#1{tfff}", 20⟩]
      [.chain .and (.leaf ⟨"M#1", true, false, false, false, ""⟩) []] :=
    @Derives.lone .and _ _ (.leaf rfl rfl)
  exact @Derives.chain .or _ _ _ _ (@Derives.lone .and _ _ (.group rfl hinner rfl))
    (@Derives.more .or ⟨.or, "|", 19⟩ _ _ _ _ rfl hlast .none)

end Derivation

/-- The course `M 1`, which needs itself and `A`, or only itself, has a graph in one piece. Its own
node is reached from the root, twice. -/
theorem Graph.connected_of_ofText_courseTwice :
    PlainStart "M#1" ∧ "(M#1{tfff}&A{ffff})|M#1{tfff}" ≠ "" ∧
      ∃ g, Graph.ofText "M#1" "(M#1{tfff}&A{ffff})|M#1{tfff}" = .ok g ∧ g.Connected "M#1" ∧
        g.root = some "|(&M#1A)M#1" := by
  have howner : PlainStart "M#1" := by simp [PlainStart, structural?]
  have hne : "(M#1{tfff}&A{ffff})|M#1{tfff}" ≠ "" := by decide
  obtain ⟨g, hg, hread⟩ := Derivation.derives_courseTwice.exists_reading "M#1"
  exact ⟨howner, hne, g, hg, Graph.connected_of_ofText howner hne hg, hread.root⟩

end Requisite
