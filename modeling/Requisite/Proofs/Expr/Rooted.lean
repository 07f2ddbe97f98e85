import Requisite.Proofs.Expr.Truth

/-!
# Graphs hang on their roots

The graph of a course hangs on it by one relation, that to the root. All other relations come from
nodes of chains, and along these every node is reached from the root (`Graph.rooted_of_ofText`). The
ids of chains show what they are, so none of this is said of the tree in the end: `Graph.Rooted` is
about the nodes and the relations alone.

Graphs whose leaves can be told apart together also agree on the nodes that they share: a relation
of one graph from a chain of another has its like in the other (`Reading.exists_relation_like`).
-/

namespace Requisite

namespace Derivation

variable {d : Derivation} {bracketed : Bool} {id : String}

/-! ## The nodes of a tree -/

/-- A leaf of the tree or a chain in it has the id. -/
def HasNode (d : Derivation) (bracketed : Bool) (id : String) : Prop :=
  (∃ l ∈ d.leaves, l.id = id) ∨ ∃ c ∈ d.chains bracketed, c.id = id

/-- What is in a member of a chain is in the chain. -/
theorem HasNode.ofMember {op : Connective} {head second m : Derivation} {tail : List Derivation}
    (hm : m ∈ head :: second :: tail) (h : m.HasNode false id) :
    (chain op head (second :: tail)).HasNode bracketed id := by
  rcases h with ⟨l, hl, rfl⟩ | ⟨c, hc, rfl⟩
  · refine .inl ⟨l, ?_, rfl⟩
    rw [leaves_chain]
    exact List.mem_flatMap.2 ⟨m, hm, hl⟩
  · refine .inr ⟨c, ?_, rfl⟩
    rw [chains_chain]
    exact List.mem_cons_of_mem _ (List.mem_flatMap.2 ⟨m, hm, hc⟩)

/-- What is in the member of a chain of one member is in the chain. -/
theorem HasNode.lone {op : Connective} {head : Derivation} (h : head.HasNode bracketed id) :
    (chain op head []).HasNode bracketed id := by
  simpa [HasNode, leaves, leavesOf, chains] using h

/-- The node of a tree is one of its nodes. -/
theorem hasNode_idAt (d : Derivation) (bracketed : Bool) :
    d.HasNode bracketed (d.idAt bracketed) := by
  induction d using loneInduct generalizing bracketed with
  | leaf l =>
    rw [idAt_leaf]
    exact .inl ⟨l, by simp [leaves], rfl⟩
  | group content ih =>
    rw [idAt_group]
    exact ih true
  | lone op head ih =>
    rw [idAt_lone]
    exact (ih bracketed).lone
  | chain op head m tail ih =>
    rw [idAt_chain, HasNode, chains_chain]
    exact .inr ⟨_, List.mem_cons_self, rfl⟩

/-- So is that of every member of a chain. -/
theorem hasNode_member {c : Occurrence} (hc : c ∈ d.chains bracketed) {m : Derivation}
    (hm : m ∈ c.members) : d.HasNode bracketed m.nid := by
  refine chains_induct (motive := fun bracketed d => d.HasNode bracketed m.nid) ?_ ?_ ?_ ?_ hc
  · intro bracketed content h
    exact h
  · intro bracketed op head h
    exact h.lone
  · intro bracketed op head second tail hmembers
    rw [hmembers] at hm
    exact .ofMember hm (hasNode_idAt m false)
  · intro bracketed op head second tail d hd h
    exact .ofMember hd h

/-- A property of the node of a tree that passes from chains to their members is one of all its
nodes. -/
theorem HasNode.induct {P : String → Prop} (root : P (d.idAt bracketed))
    (member : ∀ c ∈ d.chains bracketed, P c.id → ∀ m ∈ c.members, P m.nid)
    (h : d.HasNode bracketed id) : P id := by
  induction d using loneInduct generalizing bracketed with
  | leaf l =>
    rw [idAt_leaf] at root
    rcases h with ⟨l', hl', rfl⟩ | ⟨c, hc, -⟩
    · obtain rfl : l' = l := by simpa [leaves] using hl'
      exact root
    · simp [chains] at hc
  | group content ih =>
    rw [idAt_group] at root
    exact ih root member h
  | lone op head ih =>
    rw [idAt_lone] at root
    exact ih root (by simpa [chains] using member)
      (by simpa [HasNode, leaves, leavesOf, chains] using h)
  | chain op head m tail ih =>
    have hown : P (idAt bracketed (.chain op head (m :: tail))) ∧
        ∀ d ∈ head :: m :: tail, P d.nid := by
      refine ⟨root, ?_⟩
      rw [idAt_chain] at root
      exact member _ (by rw [chains_chain]; exact List.mem_cons_self) root
    -- A node is that of the chain itself, or one of those in a member.
    have hinner : ∀ d ∈ head :: m :: tail, d.HasNode false id → P id := by
      intro d hd hnode
      refine @ih d hd false (hown.2 d hd) (fun c hc => member c ?_) hnode
      rw [chains_chain]
      exact List.mem_cons_of_mem _ (List.mem_flatMap.2 ⟨d, hd, hc⟩)
    rcases h with ⟨l, hl, hid⟩ | ⟨c, hc, hid⟩
    · rw [leaves_chain] at hl
      obtain ⟨d, hd, hl⟩ := List.mem_flatMap.1 hl
      exact hinner d hd (.inl ⟨l, hl, hid⟩)
    · rw [chains_chain, List.mem_cons, List.mem_flatMap] at hc
      rcases hc with rfl | ⟨d, hd, hc⟩
      · rw [← hid, ← idAt_chain]
        exact hown.1
      · exact hinner d hd (.inr ⟨c, hc, hid⟩)

end Derivation

/-! ## The nodes of a graph -/

/-- The root reaches the id by relations from nodes of chains. -/
inductive Graph.Reaches (g : Graph) : String → Prop where
  /-- The root is reached. -/
  | root {id : String} (root : g.root = some id) : Reaches g id
  /-- What a reached chain leads to is reached. -/
  | along {r : Relation} (stored : r ∈ g.relations) (chain : NodeKind.ofId r.source ≠ .value)
      (source : Reaches g r.source) : Reaches g r.target

/-- The graph hangs on its owner by the root, and on the root by all the rest. -/
structure Graph.Rooted (owner : String) (g : Graph) : Prop where
  /-- The owner has a relation to the root, if there is one. -/
  root : ∀ id, g.root = some id → { source := owner, target := id } ∈ g.relations
  /-- Every other relation is from a chain that is reached. -/
  relations : ∀ r ∈ g.relations, r.source = owner ∧ g.root = some r.target ∨
    NodeKind.ofId r.source ≠ .value ∧ g.Reaches r.source
  /-- The nodes are those that are reached. -/
  nodes : ∀ id, id ∈ g.nodes.map Node.id ↔ g.Reaches id

/-- The source and the target of a relation, without its attributes. -/
def Relation.ends (r : Relation) : String × String :=
  (r.source, r.target)

/-- The ends of a relation do not depend on its attributes. -/
@[simp] theorem Relation.ends_between (source target : String) (flags : Option Flags) :
    (Relation.between source target flags).ends = (source, target) := by
  rw [ends, source_between, target_between]

/-- Every relation of a graph that hangs on its root leads to what is reached. -/
theorem Graph.Rooted.reaches_target {owner : String} {g : Graph} (h : g.Rooted owner)
    {r : Relation} (hr : r ∈ g.relations) : g.Reaches r.target := by
  rcases h.relations r hr with ⟨-, hroot⟩ | ⟨hchain, hreached⟩
  · exact .root hroot
  · exact .along hr hchain hreached

namespace Reading

variable {owner : String} {d : Derivation} {g : Graph}

/-- The ids of the nodes are those of the tree. -/
theorem mem_ids (h : Reading owner d g) {id : String} :
    id ∈ g.nodes.map Node.id ↔ d.HasNode false id := by
  rw [List.mem_map]
  constructor
  · rintro ⟨n, hn, rfl⟩
    rcases (h.nodes n).1 hn with ⟨l, hl, rfl⟩ | ⟨c, hc, rfl⟩
    · exact .inl ⟨l, hl, rfl⟩
    · exact .inr ⟨c, hc, rfl⟩
  · rintro (⟨l, hl, rfl⟩ | ⟨c, hc, rfl⟩)
    · exact ⟨_, (h.nodes _).2 (.inl ⟨l, hl, rfl⟩), rfl⟩
    · exact ⟨_, (h.nodes _).2 (.inr ⟨c, hc, rfl⟩), rfl⟩

/-- A chain of the tree leads to its members. -/
theorem relation_to_member (h : Reading owner d g) {c : Derivation.Occurrence}
    (hc : c ∈ d.chains false) {m : Derivation} (hm : m ∈ c.members) :
    Relation.between c.id m.nid m.flags ∈ g.relations :=
  (h.relations _).2 (.inr ⟨c, hc, m, hm, rfl⟩)

/-- The id of a chain shows that it is one. -/
theorem ofId_ne_value {c : Derivation.Occurrence} (hc : c ∈ d.chains false) :
    NodeKind.ofId c.id ≠ .value := by
  rw [Derivation.ofId_of_mem_chains hc]
  cases c.op <;> simp [Connective.kind]

/-- A graph that is read off a tree hangs on its root. -/
theorem rooted (h : Reading owner d g) : g.Rooted owner := by
  -- Being reached passes from chains to their members, so all nodes of the tree are reached.
  have hnode {id : String} (hid : d.HasNode false id) : g.Reaches id := by
    refine @Derivation.HasNode.induct d false id g.Reaches (.root h.root) ?_ hid
    intro c hc hreached m hm
    have halong := Graph.Reaches.along (h.relation_to_member hc hm)
    rw [Relation.source_between, Relation.target_between] at halong
    exact halong (ofId_ne_value hc) hreached
  constructor
  · intro id hid
    rw [h.root, Option.some.injEq] at hid
    exact (h.relations _).2 (.inl (by rw [hid]))
  · intro r hr
    rcases (h.relations r).1 hr with rfl | ⟨c, hc, m, hm, rfl⟩
    · exact .inl ⟨rfl, h.root⟩
    · rw [Relation.source_between]
      exact .inr ⟨ofId_ne_value hc, hnode (.inr ⟨c, hc, rfl⟩)⟩
  · intro id
    rw [h.mem_ids]
    refine ⟨hnode, fun hreached => ?_⟩
    induction hreached with
    | root root =>
      rw [h.root, Option.some.injEq] at root
      rw [← root]
      exact d.hasNode_idAt false
    | along stored chain source ih =>
      rcases (h.relations _).1 stored with rfl | ⟨c, hc, m, hm, rfl⟩
      · exact d.hasNode_idAt false
      · rw [Relation.target_between]
        exact Derivation.hasNode_member hc hm

/-- A relation from a chain that another graph has too has its like there, with the same ends. -/
theorem exists_relation_like {ls : List Leaf} {owner' : String} {d' : Derivation} {g' : Graph}
    (h : Reading owner d g) (h' : Reading owner' d' g') (howner : PlainStart owner)
    (hids : IdsApart ls) (hstart : ∀ l ∈ ls, l.StartsPlain) (hread : d.toExpr.Readable ls)
    (hread' : d'.toExpr.Readable ls) {r : Relation} (hr : r ∈ g.relations)
    (hchain : NodeKind.ofId r.source ≠ .value) (hnode : r.source ∈ g'.nodes.map Node.id) :
    r.ends ∈ g'.relations.map Relation.ends := by
  rcases (h.relations r).1 hr with rfl | ⟨c, hc, m, hm, rfl⟩
  · -- The owner is no chain.
    exact absurd (NodeKind.ofId_of_plainStart howner) hchain
  · rw [Relation.source_between] at hchain hnode
    rcases h'.mem_ids.1 hnode with ⟨l, hl, hid⟩ | ⟨c', hc', hid⟩
    · -- The id of a leaf shows that it is no chain.
      have hplain : l.StartsPlain := hstart l (hread'.leaves l (by rwa [Derivation.leaves_toExpr]))
      rw [← hid] at hchain
      exact absurd (NodeKind.ofId_of_plainStart hplain.plainStart) hchain
    · have hnids := Derivation.nids_of_id_eq hids hstart hread hread' hc hc' hid.symm
      have hmember : m.nid ∈ c'.members.map Derivation.nid := hnids ▸ List.mem_map_of_mem hm
      obtain ⟨m', hm', hnid⟩ := List.mem_map.1 hmember
      refine List.mem_map.2 ⟨_, h'.relation_to_member hc' hm', ?_⟩
      rw [Relation.ends_between, Relation.ends_between, hid, hnid]

end Reading

/-- The graph of a text hangs on its root; that of the empty text has none. -/
theorem Graph.rooted_of_ofText {owner text : String} {g : Graph}
    (h : Graph.ofText owner text = .ok g) : g.Rooted owner := by
  rcases Graph.eq_empty_or_exists_reading h with rfl | ⟨d, -, hread⟩
  · have hnone (id : String) : ¬ Graph.Reaches {} id := by
      intro hreached
      induction hreached with
      | root root => simp at root
      | along stored chain source ih => exact ih
    exact ⟨by simp, by simp, fun id => by simpa using hnone id⟩
  · exact hread.rooted

end Requisite
