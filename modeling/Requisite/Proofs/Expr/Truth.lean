import Requisite.Proofs.Evaluation
import Requisite.Proofs.Expr.Decoding
import Requisite.Proofs.Expr.Reading

/-!
# What a graph means

The graph of an expression, evaluated from its root, has the truth value of the expression. Nodes
are shared by their ids, so this needs two conditions on the expression: the ids of its leaves can
be told apart, and a conjunction within a disjunction stands in brackets. Chains which share a node
then have the same members (`nids_of_id_eq`), so that the targets of the node are those of each
(`mem_targets`); and the targets have shorter ids than the node (`length_lt_of_feeds`), so that the
evaluation ends.
-/

namespace Requisite

namespace Derivation

mutual

/-- The truth value of a derivation tree under the assignment `σ` to the ids of the leaves. -/
def truth (σ : String → Bool) : Derivation → Bool
  | .leaf l => σ l.id
  | .group content => truth σ content
  | .chain op head tail => op.holds (truth σ head :: truths σ tail)

/-- The truth values of several derivation trees. -/
def truths (σ : String → Bool) : List Derivation → List Bool
  | [] => []
  | d :: ds => truth σ d :: truths σ ds

end

/-- Every conjunction that is a member of a disjunction stands in brackets. -/
def Bracketed (d : Derivation) : Prop :=
  ∀ c ∈ d.chains false, c.op = .or → ∀ m ∈ c.members, m.isChain = false

/-- Several derivation trees have the truth values of each. -/
theorem truths_eq_map (σ : String → Bool) (ds : List Derivation) :
    truths σ ds = ds.map (truth σ) := by
  induction ds with
  | nil => rfl
  | cons d ds ih => rw [truths, ih, List.map_cons]

/-- The id of the node of a tree, if it stands directly in brackets or not. -/
def idAt (bracketed : Bool) (d : Derivation) : String :=
  if bracketed && d.isChain then "(" ++ d.cid ++ ")" else d.nid

/-- A leaf has its id wherever it stands. -/
theorem idAt_leaf (bracketed : Bool) (l : Leaf) : idAt bracketed (.leaf l) = l.id := by
  simp [idAt, isChain, nid]

/-- Brackets pass on to their content. -/
theorem idAt_group (bracketed : Bool) (content : Derivation) :
    idAt bracketed (.group content) = idAt true content := by
  simp [idAt, isChain, nid]

/-- A chain of one member stands where the member does. -/
theorem idAt_lone (bracketed : Bool) (op : Connective) (head : Derivation) :
    idAt bracketed (.chain op head []) = idAt bracketed head := by
  simp [idAt, isChain, nid, cid]

/-- A longer chain has its canonical id, in brackets if it stands directly in some. -/
theorem idAt_chain (bracketed : Bool) (op : Connective) (head m : Derivation)
    (tail : List Derivation) :
    idAt bracketed (.chain op head (m :: tail)) =
      if bracketed then "(" ++ cid (.chain op head (m :: tail)) ++ ")"
      else cid (.chain op head (m :: tail)) := by
  simp [idAt, isChain, nid]

/-- A valuation that gives every leaf its assigned value, and every chain that of its members, gives
the tree its truth value. -/
theorem eq_truth {value σ : String → Bool} {d : Derivation} {bracketed : Bool}
    (hleaf : ∀ l ∈ d.leaves, value l.id = σ l.id)
    (hchain : ∀ c ∈ d.chains bracketed,
      value c.id = c.op.holds (c.members.map fun m => value m.nid)) :
    value (d.idAt bracketed) = d.truth σ := by
  induction d using loneInduct generalizing bracketed with
  | leaf l =>
    rw [idAt_leaf, truth]
    exact hleaf l (by simp [leaves])
  | group content ih =>
    rw [idAt_group, truth]
    exact ih hleaf hchain
  | lone op head ih =>
    have htruth : truth σ (.chain op head []) = truth σ head := by
      rw [truth, truths, Connective.holds_singleton]
    rw [idAt_lone, htruth]
    exact ih (by simpa [leaves, leavesOf] using hleaf) (by simpa [chains] using hchain)
  | chain op head m tail ih =>
    -- The chain itself is the first one listed, under the id at which it stands.
    have hown := hchain _ (by rw [chains]; exact List.mem_cons_self)
    have hmembers : ∀ d ∈ head :: m :: tail, value d.nid = truth σ d := by
      intro d hd
      refine @ih d hd false ?_ ?_
      · intro l hl
        refine hleaf l ?_
        rw [leaves_chain]
        exact List.mem_flatMap.2 ⟨d, hd, hl⟩
      · intro c hc
        refine hchain c ?_
        rw [chains_chain]
        exact List.mem_cons_of_mem _ (List.mem_flatMap.2 ⟨d, hd, hc⟩)
    rw [idAt_chain, hown, truth, truths_eq_map, ← List.map_cons]
    exact congrArg op.holds (List.map_congr_left hmembers)

end Derivation

/-! ## Chains in brackets -/

/-- Factors are no chains outside brackets. -/
theorem Derives.isChain_factor {n : Nonterminal} {ts : List Token} {ds : List Derivation}
    (h : Derives n ts ds) (hn : n = .factor ∨ n = .further .and) {d : Derivation} (hd : d ∈ ds) :
    d.isChain = false := by
  induction h with
  | chain first others ihfirst ihothers => simp at hn
  | none => simp at hd
  | more sign first others ihfirst ihothers =>
    obtain rfl := by simpa using hn
    rcases List.mem_cons.1 hd with rfl | hd
    · exact ihfirst (.inl rfl) List.mem_cons_self
    · exact ihothers (.inr rfl) hd
  | leaf kind decode =>
    obtain rfl := by simpa using hd
    rfl
  | group opening inner closing ih =>
    obtain rfl := by simpa using hd
    rfl

/-- The members of a conjunction are no chains outside brackets. -/
theorem Derives.isChain_member_and {n : Nonterminal} {ts : List Token} {ds : List Derivation}
    (h : Derives n ts ds) {d : Derivation} (hd : d ∈ ds) {bracketed : Bool}
    {c : Derivation.Occurrence} (hc : c ∈ d.chains bracketed) (hop : c.op = .and) {m : Derivation}
    (hm : m ∈ c.members) : m.isChain = false := by
  induction h generalizing d bracketed with
  | @chain op ts us head tail first others ihfirst ihothers =>
    obtain rfl := by simpa using hd
    cases tail with
    | nil => exact ihfirst List.mem_cons_self (by simpa [Derivation.chains] using hc)
    | cons second tail =>
      rw [Derivation.chains_chain, List.mem_cons, List.mem_flatMap] at hc
      rcases hc with rfl | ⟨d, hd, hc⟩
      · obtain rfl : op = .and := hop
        rcases List.mem_cons.1 hm with rfl | hm
        · exact first.isChain_factor (.inl rfl) List.mem_cons_self
        · exact others.isChain_factor (.inr rfl) hm
      · rcases List.mem_cons.1 hd with rfl | hd
        · exact ihfirst List.mem_cons_self hc
        · exact ihothers hd hc
  | none => simp at hd
  | more sign first others ihfirst ihothers =>
    rcases List.mem_cons.1 hd with rfl | hd
    · exact ihfirst List.mem_cons_self hc
    · exact ihothers hd hc
  | leaf kind decode =>
    obtain rfl := by simpa using hd
    simp [Derivation.chains] at hc
  | group opening inner closing ih =>
    obtain rfl := by simpa using hd
    exact ih List.mem_cons_self (by simpa [Derivation.chains] using hc)

/-- The ids of an expression whose conjunctions stand in brackets can be read back. -/
theorem Derives.readable {ts : List Token} {d : Derivation} (h : Derives .expression ts [d])
    (hd : d.Bracketed) : d.toExpr.Readable d.leaves where
  leaves := by
    rw [Derivation.leaves_toExpr]
    exact fun l hl => hl
  flat := by
    rw [Derivation.chains_toExpr]
    intro c' hc' m' hm'
    obtain ⟨c, hc, rfl⟩ := List.mem_map.1 hc'
    obtain ⟨m, hm, rfl⟩ := List.mem_map.1 hm'
    rw [Derivation.isChain_toExpr]
    cases hop : c.op with
    | and => exact h.isChain_member_and List.mem_cons_self hc hop hm
    | or => exact hd c hc hop m hm

/-! ## Nodes that chains share -/

namespace Derivation

variable {d d' : Derivation} {c c' : Occurrence}

/-- A chain of the tree is one of the expression. -/
theorem toChain_mem_chains (hc : c ∈ d.chains false) : c.toChain ∈ d.toExpr.chains := by
  rw [chains_toExpr]
  exact List.mem_map_of_mem hc

/-- The id of the node of a chain names its kind. -/
theorem ofId_of_mem_chains (hc : c ∈ d.chains false) : NodeKind.ofId c.id = c.op.kind :=
  Expr.ofId_of_mem_chains (toChain_mem_chains hc)

/-- The nodes of members have shorter ids than that of the chain. -/
theorem length_nid_lt (hc : c ∈ d.chains false) {m : Derivation} (hm : m ∈ c.members) :
    m.nid.length < c.id.length := by
  rw [← nodeId_toExpr]
  exact Expr.length_nodeId_lt (toChain_mem_chains hc) (List.mem_map_of_mem hm)

/-- No chain of the tree has a longer id than the node of the tree. -/
theorem length_id_le_nid (hc : c ∈ d.chains false) : c.id.length ≤ d.nid.length := by
  rw [← nodeId_toExpr]
  exact Expr.length_id_le (toChain_mem_chains hc)

/-- Chains which share a node have the same nodes as members, also chains of different trees. -/
theorem nids_of_id_eq {ls : List Leaf} (hids : IdsApart ls) (hstart : ∀ l ∈ ls, l.StartsPlain)
    (hd : d.toExpr.Readable ls) (hd' : d'.toExpr.Readable ls) (hc : c ∈ d.chains false)
    (hc' : c' ∈ d'.chains false) (h : c.id = c'.id) : c.members.map nid = c'.members.map nid := by
  have hnids (ds : List Derivation) :
      ds.map nid = ((ds.map toExpr).map Expr.bare).map Expr.nodeId := by
    rw [List.map_map, List.map_map]
    refine List.map_congr_left fun m _ => ?_
    exact (nodeId_toExpr m).symm.trans (Expr.nodeId_bare m.toExpr).symm
  obtain ⟨-, hmembers⟩ := Expr.members_of_id_eq hids hstart hd hd' (toChain_mem_chains hc)
    (toChain_mem_chains hc') h
  rw [hnids, hnids]
  exact congrArg (List.map Expr.nodeId) hmembers

end Derivation

/-! ## Evaluating what is read -/

namespace Reading

variable {owner : String} {d : Derivation} {g : Graph}

/-- The node of a chain has its connective. -/
theorem connective?_of_mem_chains (h : Reading owner d g) {c : Derivation.Occurrence}
    (hc : c ∈ d.chains false) : g.connective? c.id = some c.op := by
  have hnode : ⟨c.id, c.op.kind⟩ ∈ g.nodes := (h.nodes _).2 (.inr ⟨c, hc, rfl⟩)
  rw [g.connective?_of_mem h.nodes_apart hnode, NodeKind.connective?_kind]

/-- The node of a leaf has no connective. -/
theorem connective?_of_mem_leaves (h : Reading owner d g) {l : Leaf} (hl : l ∈ d.leaves) :
    g.connective? l.id = none := by
  have hnode : ⟨l.id, .value⟩ ∈ g.nodes := (h.nodes _).2 (.inl ⟨l, hl, rfl⟩)
  rw [g.connective?_of_mem h.nodes_apart hnode, NodeKind.connective?]

/-- Only the nodes of chains have connectives. -/
theorem exists_chain_of_connective? (h : Reading owner d g) {id : String} {op : Connective}
    (hop : g.connective? id = some op) : ∃ c ∈ d.chains false, c.id = id := by
  obtain ⟨n, hn, rfl, hkind⟩ := Graph.exists_mem_of_connective? hop
  rcases (h.nodes n).1 hn with ⟨l, -, rfl⟩ | ⟨c, hc, rfl⟩
  · simp [NodeKind.connective?] at hkind
  · exact ⟨c, hc, rfl⟩

/-- The relations from the node of a chain lead to the members of the chains that share it. -/
theorem mem_targets (h : Reading owner d g) (howner : PlainStart owner)
    {c : Derivation.Occurrence} (hc : c ∈ d.chains false) {t : String} :
    t ∈ g.targets c.id ↔ ∃ c' ∈ d.chains false, c'.id = c.id ∧ ∃ m ∈ c'.members, m.nid = t := by
  -- The owner is no chain, so its relation to the root is not among them.
  have hne : owner ≠ c.id := by
    rintro rfl
    have hkind := Derivation.ofId_of_mem_chains hc
    rw [NodeKind.ofId_of_plainStart howner] at hkind
    cases hop : c.op <;> simp [hop, Connective.kind] at hkind
  rw [Graph.mem_targets]
  constructor
  · rintro ⟨r, hr, hsource, rfl⟩
    rcases (h.relations r).1 hr with rfl | ⟨c', hc', m, hm, rfl⟩
    · exact absurd hsource hne
    · rw [Relation.source_between] at hsource
      exact ⟨c', hc', hsource, m, hm, (Relation.target_between _ _ _).symm⟩
  · rintro ⟨c', hc', hid, m, hm, rfl⟩
    refine ⟨_, (h.relations _).2 (.inr ⟨c', hc', m, hm, rfl⟩), ?_, ?_⟩
    · rw [Relation.source_between, hid]
    · rw [Relation.target_between]

/-- The nodes that a node is evaluated from have shorter ids. -/
theorem length_lt_of_feeds (h : Reading owner d g) (howner : PlainStart owner)
    {child parent : String} (hfeeds : g.Feeds child parent) : child.length < parent.length := by
  obtain ⟨⟨op, hop⟩, htarget⟩ := hfeeds
  obtain ⟨c, hc, rfl⟩ := h.exists_chain_of_connective? hop
  obtain ⟨c', hc', hid, m, hm, rfl⟩ := (h.mem_targets howner hc).1 htarget
  rw [← hid]
  exact Derivation.length_nid_lt hc' hm

/-- The evaluation ends, since ids get shorter from a node to its targets. -/
theorem wellFounded_feeds (h : Reading owner d g) (howner : PlainStart owner) :
    WellFounded g.Feeds :=
  Subrelation.wf (h.length_lt_of_feeds howner) (measure String.length).wf

/-- The root has the truth value of the tree. -/
theorem eval_nid (h : Reading owner d g) (howner : PlainStart owner) (hids : IdsApart d.leaves)
    (hstart : ∀ l ∈ d.leaves, l.StartsPlain) (hd : d.toExpr.Readable d.leaves)
    (wf : WellFounded g.Feeds) (σ : String → Bool) : g.eval wf σ d.nid = d.truth σ := by
  refine @Derivation.eq_truth (g.eval wf σ) σ d false ?_ ?_
  · intro l hl
    exact Graph.eval_of_value (h.connective?_of_mem_leaves hl)
  · intro c hc
    have hvalues : c.members.map (fun m => g.eval wf σ m.nid) =
        (c.members.map Derivation.nid).map (g.eval wf σ) := by
      rw [List.map_map]
      rfl
    -- Other chains with the node add no targets, and repetitions do not count.
    have htargets (t : String) : t ∈ g.targets c.id ↔ t ∈ c.members.map Derivation.nid := by
      rw [h.mem_targets howner hc, List.mem_map]
      constructor
      · rintro ⟨c', hc', hid, hm⟩
        have hnids := Derivation.nids_of_id_eq hids hstart hd hd hc' hc hid
        rwa [← List.mem_map, hnids, List.mem_map] at hm
      · intro hm
        exact ⟨c, hc, rfl, hm⟩
    rw [Graph.eval_of_connective (h.connective?_of_mem_chains hc), hvalues]
    refine c.op.holds_congr fun value => ?_
    rw [List.mem_map, List.mem_map]
    exact exists_congr fun t => and_congr_left' (htargets t)

end Reading

/-- The graph of an expression means what the expression means: evaluated from its root under any
truth assignment, it has the truth value of the derivation tree. -/
theorem Graph.eval_ofText {owner expression : String} {d : Derivation}
    (hd : DerivesAll (tokenize expression) d) (hids : IdsApart d.leaves) (hbrackets : d.Bracketed)
    (howner : PlainStart owner) :
    ∃ g root, Graph.ofText owner expression = .ok g ∧ g.root = some root ∧
      ∃ wf : WellFounded g.Feeds, ∀ σ, g.eval wf σ root = d.truth σ := by
  have hderives := derivesAll_tokenize.1 hd
  have hne : expression ≠ "" := by
    rintro rfl
    exact hderives.ne_nil rfl
  have hstart : ∀ l ∈ d.leaves, l.StartsPlain := fun l hl => hderives.startsPlain hl
  have hread : Reading owner d (d.toExpr.graph owner) := d.reading_graph owner hstart
  refine ⟨d.toExpr.graph owner, d.nid, ?_, hread.root, hread.wellFounded_feeds howner, fun σ => ?_⟩
  · exact (Graph.ofText_eq_ok_iff hne).2 ⟨d, hderives, rfl⟩
  · exact hread.eval_nid howner hids hstart (hderives.readable hbrackets) _ σ

/-- The graph of `(A&B)|A`, whose leaf `A` is shared, has the truth value of the expression. -/
theorem Graph.eval_ofText_nested :
    ∃ g root, Graph.ofText "C" "(A{ffff}&B{ffff})|A{ffff}" = .ok g ∧ g.root = some root ∧
      ∃ wf : WellFounded g.Feeds, ∀ σ, g.eval wf σ root = ((σ "A" && σ "B") || σ "A") := by
  have hleaves : Derivation.nested.leaves = [.bare "A", .bare "B", .bare "A"] := rfl
  have hids : IdsApart Derivation.nested.leaves := by
    rw [hleaves]
    constructor
    · simp [Leaf.bare, structural?]
    · simp [Leaf.bare]
  have hbrackets : Derivation.nested.Bracketed := by
    unfold Derivation.Bracketed
    decide
  have howner : PlainStart "C" := by simp [PlainStart, structural?]
  obtain ⟨g, root, hg, hroot, wf, heval⟩ :=
    Graph.eval_ofText Derivation.derivesAll_nested hids hbrackets howner
  refine ⟨g, root, hg, hroot, wf, fun σ => ?_⟩
  rw [heval]
  simp [Derivation.nested, Leaf.bare, Derivation.truth, Derivation.truths,
    Connective.holds]

end Requisite
