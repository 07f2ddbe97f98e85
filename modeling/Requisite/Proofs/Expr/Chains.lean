import Requisite.Expr.Graph
import Requisite.Proofs.Expr.CanonicalId

/-!
# The chains of an expression

Which nodes and relations the graph of an expression holds, whatever the order in which they are
recorded. `Expr.chainsAt` lists every chain within an expression with the id of its node, and
`mem_nodes_iff` and `mem_relations_iff` say that the nodes are those of the leaves and of the
chains, and the relations those from the chains to their members and the one from the owner to the
root.
-/

namespace Requisite

/-- A chain within an expression, with the id of its node. -/
structure Chain where
  id : String
  op : Connective
  members : List Expr

/-- The node of the chain. -/
def Chain.node (c : Chain) : Node :=
  ⟨c.id, c.op.kind⟩

namespace Expr

mutual

/-- The chains within an expression. If it is a chain itself, its node is stored under `id`. -/
def chainsAt (id : String) : Expr → List Chain
  | .leaf _ => []
  | .group content => chainsAt (canonicalId (.group content)) content
  | .chain op members => ⟨id, op, members⟩ :: chainsOf members

/-- The chains within the members of a chain. -/
def chainsOf : List Expr → List Chain
  | [] => []
  | m :: members => chainsAt (canonicalId m) m ++ chainsOf members

end

/-- The chains within an expression that stands by itself. -/
def chains (e : Expr) : List Chain :=
  chainsAt e.canonicalId e

/-! ## Lists of members -/

/-- The leaves of the members come one member after the other. -/
theorem leavesOf_eq (members : List Expr) : leavesOf members = members.flatMap leaves := by
  induction members with
  | nil => rfl
  | cons m members ih => rw [leavesOf, ih, List.flatMap_cons]

/-- The chains within the members come one member after the other. -/
theorem chainsOf_eq (members : List Expr) : chainsOf members = members.flatMap chains := by
  induction members with
  | nil => rfl
  | cons m members ih => rw [chainsOf, ih, List.flatMap_cons, chains]

/-- The nodes recorded while the members are read, one member after the other. -/
theorem readNodesOf_eq (members : List Expr) : readNodesOf members = members.flatMap readNodes := by
  induction members with
  | nil => rfl
  | cons m members ih => rw [readNodesOf, ih, List.flatMap_cons]

/-- The relations recorded while the members are read, one member after the other. -/
theorem readRelationsOf_eq (members : List Expr) :
    readRelationsOf members = members.flatMap readRelations := by
  induction members with
  | nil => rfl
  | cons m members ih => rw [readRelationsOf, ih, List.flatMap_cons]

/-- A member that waits is stored under its canonical id. -/
theorem waitingNodes_eq (members : List Expr) :
    waitingNodes members = members.flatMap fun m => storedNodes m.canonicalId m := by
  induction members with
  | nil => simp [waitingNodes]
  | cons m members ih =>
    cases m with
    | leaf l => simpa [waitingNodes, storedNodes] using ih
    | group content => simpa [waitingNodes, storedNodes] using ih
    | chain op inner => simp [waitingNodes, storedNodes, ih]

/-- Each member has a relation to it, after those of the waiting chain that it may be. -/
theorem memberRelations_eq (source : String) (members : List Expr) :
    memberRelations source members =
      members.flatMap fun m => storedRelations m.canonicalId m ++ [edge source m] := by
  induction members with
  | nil => simp [memberRelations]
  | cons m members ih =>
    cases m with
    | leaf l => simpa [memberRelations, storedRelations] using ih
    | group content => simpa [memberRelations, storedRelations] using ih
    | chain op inner => simp [memberRelations, storedRelations, ih]

/-! ## What is recorded -/

/-- The nodes recorded for an expression, while it is read and when it is stored, are those of its
leaves and of its chains. -/
theorem mem_recordedNodes (e : Expr) (id : String) (n : Node) :
    n ∈ e.readNodes ++ e.storedNodes id ↔
      (∃ l ∈ e.leaves, n = ⟨l.id, .value⟩) ∨ ∃ c ∈ e.chainsAt id, n = c.node := by
  -- A chain that waits is stored by the expression around it, so neither of the two lists has an
  -- invariant of its own: the induction is on both together, for any id.
  induction e generalizing id with
  | leaf l => simp [readNodes, storedNodes, leaves, chainsAt]
  | group content ih =>
    simp only [readNodes, leaves, chainsAt, ← ih]
    simp [storedNodes]
  | chain op members ih =>
    have hmembers : n ∈ readNodesOf members ++ waitingNodes members ↔
        ∃ m ∈ members, (∃ l ∈ m.leaves, n = ⟨l.id, .value⟩) ∨ ∃ c ∈ m.chains, n = c.node := by
      rw [readNodesOf_eq, waitingNodes_eq, List.mem_append, List.mem_flatMap, List.mem_flatMap,
        ← exists_or]
      refine exists_congr fun m => ?_
      rw [← and_or_left, ← List.mem_append]
      exact and_congr_right fun hm => ih m hm _
    calc n ∈ readNodes (.chain op members) ++ storedNodes id (.chain op members)
        ↔ n = ⟨id, op.kind⟩ ∨ n ∈ readNodesOf members ++ waitingNodes members := by
          simp only [readNodes, storedNodes, List.mem_append, List.mem_cons]
          exact or_left_comm
      _ ↔ (∃ l ∈ leaves (.chain op members), n = ⟨l.id, .value⟩) ∨
            ∃ c ∈ chainsAt id (.chain op members), n = c.node := by
          rw [hmembers]
          simp only [leaves, leavesOf_eq, chainsAt, chainsOf_eq, List.mem_cons, List.mem_flatMap]
          constructor
          · rintro (rfl | ⟨m, hm, ⟨l, hl, rfl⟩ | ⟨c, hc, rfl⟩⟩)
            · exact .inr ⟨_, .inl rfl, rfl⟩
            · exact .inl ⟨l, ⟨m, hm, hl⟩, rfl⟩
            · exact .inr ⟨c, .inr ⟨m, hm, hc⟩, rfl⟩
          · rintro (⟨l, ⟨m, hm, hl⟩, rfl⟩ | ⟨c, rfl | ⟨m, hm, hc⟩, rfl⟩)
            · exact .inr ⟨m, hm, .inl ⟨l, hl, rfl⟩⟩
            · exact .inl rfl
            · exact .inr ⟨m, hm, .inr ⟨c, hc, rfl⟩⟩

/-- The relations recorded for an expression, while it is read and when it is stored, are those from
its chains to their members. -/
theorem mem_recordedRelations (e : Expr) (id : String) (r : Relation) :
    r ∈ e.readRelations ++ e.storedRelations id ↔
      ∃ c ∈ e.chainsAt id, ∃ m ∈ c.members, r = edge c.id m := by
  induction e generalizing id with
  | leaf l => simp [readRelations, storedRelations, chainsAt]
  | group content ih =>
    simp only [readRelations, chainsAt, ← ih]
    simp [storedRelations]
  | chain op members ih =>
    have hmembers : r ∈ readRelationsOf members ++ memberRelations id members ↔
        ∃ m ∈ members, r = edge id m ∨ ∃ c ∈ m.chains, ∃ m' ∈ c.members, r = edge c.id m' := by
      rw [readRelationsOf_eq, memberRelations_eq, List.mem_append, List.mem_flatMap,
        List.mem_flatMap, ← exists_or]
      refine exists_congr fun m => ?_
      rw [← and_or_left, ← List.mem_append, ← List.append_assoc, List.mem_append,
        List.mem_singleton, or_comm]
      exact and_congr_right fun hm => or_congr_right (ih m hm _)
    rw [readRelations, storedRelations, hmembers, chainsAt, chainsOf_eq]
    simp only [List.mem_cons, List.mem_flatMap]
    constructor
    · rintro ⟨m, hm, rfl | ⟨c, hc, m', hm', rfl⟩⟩
      · exact ⟨_, .inl rfl, m, hm, rfl⟩
      · exact ⟨c, .inr ⟨m, hm, hc⟩, m', hm', rfl⟩
    · rintro ⟨c, rfl | ⟨m, hm, hc⟩, m', hm', rfl⟩
      · exact ⟨m', hm', .inl rfl⟩
      · exact ⟨m, hm, .inr ⟨c, hc, m', hm', rfl⟩⟩

/-! ## The nodes of chains -/

/-- A chain has its node under its canonical id, or under the one in brackets. -/
theorem id_of_mem_chainsAt {e : Expr} {id : String} {c : Chain} (h : c ∈ e.chainsAt id)
    (hid : id = e.canonicalId ∨ id = (group e).canonicalId) :
    c.id = (chain c.op c.members).canonicalId ∨
      c.id = (group (.chain c.op c.members)).canonicalId := by
  induction e generalizing id with
  | leaf l => simp [chainsAt] at h
  | group content ih => exact ih h (.inr rfl)
  | chain op members ih =>
    rw [chainsAt, List.mem_cons, chainsOf_eq, List.mem_flatMap] at h
    rcases h with rfl | ⟨m, hm, hc⟩
    · exact hid
    · exact ih m hm hc (.inl rfl)

/-- The id of the node of a chain names its kind. -/
theorem ofId_of_mem_chains {e : Expr} {c : Chain} (h : c ∈ e.chains) :
    NodeKind.ofId c.id = c.op.kind := by
  rcases id_of_mem_chainsAt h (.inl rfl) with hid | hid
  · rw [hid, NodeKind.ofId_chain]
  · rw [hid, NodeKind.ofId_group_chain]

/-- The canonical id of a member is shorter than that of the chain. -/
theorem length_canonicalId_lt (op : Connective) {members : List Expr} {m : Expr}
    (hm : m ∈ members) : m.canonicalId.length < (chain op members).canonicalId.length := by
  obtain ⟨before, after, hsplit⟩ := List.append_of_mem hm
  rw [canonicalId_chain, hsplit]
  simp only [List.map_append, List.map_cons, String.join_append, String.join_cons,
    String.length_append, String.length_singleton]
  omega

/-- The id of a member's node is shorter than that of the chain. -/
theorem length_nodeId_lt {e : Expr} {c : Chain} (hc : c ∈ e.chains) {m : Expr}
    (hm : m ∈ c.members) : m.nodeId.length < c.id.length := by
  have hmember := length_canonicalId_lt c.op hm
  have hnode := m.length_nodeId_le
  rcases id_of_mem_chainsAt hc (.inl rfl) with hid | hid
  · rw [hid]
    omega
  · rw [hid, canonicalId_group, String.length_append, String.length_append]
    omega

/-- No chain within an expression has a longer id than the expression, whose node is stored under
`id` if it is a chain itself. -/
theorem length_id_le_of_mem_chainsAt {e : Expr} {id : String} {c : Chain} (h : c ∈ e.chainsAt id)
    (hid : e.canonicalId.length ≤ id.length) :
    c.id.length ≤ if e.isChain then id.length else e.nodeId.length := by
  induction e generalizing id with
  | leaf l => simp [chainsAt] at h
  | group content ih =>
    have hlength : content.canonicalId.length ≤ (group content).canonicalId.length := by
      rw [canonicalId_group, String.length_append, String.length_append]
      omega
    have hcontent := ih h hlength
    rw [isChain, nodeId_group]
    split at hcontent
    next hchain => simpa [hchain] using hcontent
    next hchain => simpa [hchain] using hcontent
  | chain op members ih =>
    rw [chainsAt, List.mem_cons, chainsOf_eq, List.mem_flatMap] at h
    rcases h with rfl | ⟨m, hm, hc⟩
    · exact Nat.le_refl _
    · have hmember := ih m hm hc (Nat.le_refl _)
      have hnode := m.length_nodeId_le
      have hlt := length_canonicalId_lt op hm
      simp only [isChain, ↓reduceIte]
      split at hmember
      · omega
      · omega

/-- No chain within an expression has a longer id than the node of the expression. -/
theorem length_id_le {e : Expr} {c : Chain} (hc : c ∈ e.chains) :
    c.id.length ≤ e.nodeId.length := by
  have h := length_id_le_of_mem_chainsAt hc (Nat.le_refl _)
  cases e with
  | leaf l => exact h
  | group content => exact h
  | chain op members => exact h

/-! ## The graph -/

section

variable {e : Expr} {owner : String}

/-- The nodes of the graph are those of the leaves and of the chains. -/
theorem mem_nodes_iff (he : ∀ l ∈ e.leaves, l.StartsPlain) {n : Node} :
    n ∈ (e.graph owner).nodes ↔
      (∃ l ∈ e.leaves, n = ⟨l.id, .value⟩) ∨ ∃ c ∈ e.chains, n = c.node := by
  -- Two records of one id agree in the kind too, so nothing is lost where the first one stays.
  have hkind : ∀ n ∈ e.readNodes ++ e.storedNodes e.canonicalId, n.kind = NodeKind.ofId n.id := by
    intro n hn
    rcases (mem_recordedNodes e _ n).1 hn with ⟨l, hl, rfl⟩ | ⟨c, hc, rfl⟩
    · exact (NodeKind.ofId_of_plainStart (he l hl).plainStart).symm
    · exact (ofId_of_mem_chains hc).symm
  rw [graph, mem_firsts, mem_recordedNodes]
  · rfl
  · intro x hx y hy hxy
    have hxk := hkind x hx
    have hyk := hkind y hy
    cases x
    cases y
    simp_all

/-- The relations of the graph are those from the chains to their members, and the one from the
owner to the root. -/
theorem mem_relations_iff {r : Relation} :
    r ∈ (e.graph owner).relations ↔
      r = { source := owner, target := e.nodeId } ∨
        ∃ c ∈ e.chains, ∃ m ∈ c.members, r = edge c.id m := by
  rw [graph, mem_firsts, List.mem_append, mem_recordedRelations, List.mem_singleton]
  · exact or_comm
  · intro x _ y _ hxy
    exact hxy

/-- A leaf that names a course gives it no name. -/
theorem name_of_course? {l : Leaf} {c : Course} (h : l.course? = some c) : c.name = none := by
  unfold Leaf.course? at h
  split at h
  · split at h
    · split at h
      · simp at h
      · obtain rfl := by simpa using h
        rfl
    · simp at h
  · simp at h

/-- The courses of the graph are those that the leaves name. -/
theorem mem_courses_iff {c : Course} :
    c ∈ (e.graph owner).courses ↔ ∃ l ∈ e.leaves, l.course? = some c := by
  rw [graph, mem_firsts, List.mem_filterMap]
  intro x hx y hy hxy
  obtain ⟨l, -, hl⟩ := List.mem_filterMap.1 hx
  obtain ⟨l', -, hl'⟩ := List.mem_filterMap.1 hy
  have hxn := name_of_course? hl
  have hyn := name_of_course? hl'
  cases x
  cases y
  simp_all [Course.key]

end

end Expr

end Requisite
