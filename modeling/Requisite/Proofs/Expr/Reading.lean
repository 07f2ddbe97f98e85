import Mathlib.Data.List.Basic
import Requisite.Proofs.Expr.Chains
import Requisite.Proofs.Expr.Descent

/-!
# The graph read off a derivation tree

What the graph of an expression is, said of the derivation tree alone. `Derivation.cid` and
`Derivation.nid` are the canonical id of a tree and the id of the node that it becomes, and
`Derivation.chains` are the chains of two or more members in it. `Reading` says that a graph holds
the nodes of the leaves and the chains, the relations from every chain to its members, and nothing
else. The tree is the grammar's, with its productions of one member, and no order of recording
enters. `Graph.ofText_reads` shows that every accepted text has one tree, and the graph that this
one says.
-/

namespace Requisite

namespace Derivation

/-- To prove a property of every derivation tree, prove it of leaves, of groups from their content,
of the chains of one member from that member, and of the longer chains from all of theirs. -/
@[elab_as_elim]
theorem loneInduct {motive : Derivation → Prop} (leaf : ∀ l, motive (.leaf l))
    (group : ∀ content, motive content → motive (.group content))
    (lone : ∀ op head, motive head → motive (.chain op head []))
    (chain : ∀ op head m tail, (∀ d ∈ head :: m :: tail, motive d) →
      motive (.chain op head (m :: tail)))
    (d : Derivation) : motive d := by
  induction d with
  | leaf l => exact leaf l
  | group content ih => exact group content ih
  | chain op head tail ihhead ihtail =>
    cases tail with
    | nil => exact lone op head ihhead
    | cons m tail =>
      refine chain op head m tail fun d hd => ?_
      rcases List.mem_cons.1 hd with rfl | hd
      · exact ihhead
      · exact ihtail d hd

/-! ## The ids of a tree -/

mutual

/-- The canonical id of a tree: a chain of two or more members writes its connective and then the
canonical ids of its members, and one member alone has its own. -/
def cid : Derivation → String
  | .leaf l => l.id
  | .group content => "(" ++ cid content ++ ")"
  | .chain _ head [] => cid head
  | .chain op head (m :: tail) => String.singleton op.symbol ++ (cid head ++ (cid m ++ cids tail))

/-- The canonical ids of several trees, one after the other. -/
def cids : List Derivation → String
  | [] => ""
  | d :: ds => cid d ++ cids ds

end

/-- The tree is a chain of two or more members, if the chains of one member around it are left
out. -/
def isChain : Derivation → Bool
  | .leaf _ => false
  | .group _ => false
  | .chain _ head [] => isChain head
  | .chain _ _ (_ :: _) => true

/-- The id of the node of a tree: brackets count only directly around a chain. -/
def nid : Derivation → String
  | .leaf l => l.id
  | .group content => if content.isChain then "(" ++ content.cid ++ ")" else nid content
  | .chain _ head [] => nid head
  | .chain op head (m :: tail) => cid (.chain op head (m :: tail))

/-- The flags of the leaf that a tree is, in any number of brackets. -/
def flags : Derivation → Option Flags
  | .leaf l => some l.flags
  | .group content => flags content
  | .chain _ head [] => flags head
  | .chain _ _ (_ :: _) => none

mutual

/-- The leaves of a tree, in the order in which they are written. -/
def leaves : Derivation → List Leaf
  | .leaf l => [l]
  | .group content => leaves content
  | .chain _ head tail => leaves head ++ leavesOf tail

/-- The leaves of several trees, in order. -/
def leavesOf : List Derivation → List Leaf
  | [] => []
  | d :: ds => leaves d ++ leavesOf ds

end

/-! ## The chains of a tree -/

/-- A chain of two or more members where it stands in a tree, with the id of its node. -/
structure Occurrence where
  id : String
  op : Connective
  members : List Derivation

mutual

/-- The chains of two or more members in a tree, each with its canonical id, and in brackets if it
stands directly inside some. Whether the tree itself does is `bracketed`. -/
def chains (bracketed : Bool) : Derivation → List Occurrence
  | .leaf _ => []
  | .group content => chains true content
  | .chain _ head [] => chains bracketed head
  | .chain op head (m :: tail) =>
    { id :=
        if bracketed then "(" ++ cid (.chain op head (m :: tail)) ++ ")"
        else cid (.chain op head (m :: tail))
      op := op
      members := head :: m :: tail } :: (chains false head ++ (chains false m ++ chainsOf tail))

/-- The chains in several trees that stand in no brackets. -/
def chainsOf : List Derivation → List Occurrence
  | [] => []
  | d :: ds => chains false d ++ chainsOf ds

end

end Derivation

/-- The graph of `owner` is the one that the derivation tree says, up to the order of its parts. -/
structure Reading (owner : String) (d : Derivation) (g : Graph) : Prop where
  /-- The root is the node of the tree. -/
  root : g.root = some d.nid
  /-- The nodes are those of the leaves and those of the chains. -/
  nodes : ∀ n : Node, n ∈ g.nodes ↔
    (∃ l ∈ d.leaves, n = ⟨l.id, .value⟩) ∨ ∃ c ∈ d.chains false, n = ⟨c.id, c.op.kind⟩
  /-- No two nodes share an id. -/
  nodes_apart : (g.nodes.map Node.id).Nodup
  /-- The relations are that from the owner to the root, without attributes, and those from the
  chains to their members. -/
  relations : ∀ r : Relation, r ∈ g.relations ↔
    r = { source := owner, target := d.nid } ∨
      ∃ c ∈ d.chains false, ∃ m ∈ c.members, r = .between c.id m.nid m.flags
  /-- No relation is there twice. -/
  relations_apart : g.relations.Nodup
  /-- The courses are those that the leaves name. -/
  courses : ∀ c : Course, c ∈ g.courses ↔ ∃ l ∈ d.leaves, l.course? = some c
  /-- No course is there twice. -/
  courses_apart : (g.courses.map Course.key).Nodup

namespace Derivation

/-! ## The same of the expression -/

/-- The expression of a chain of one member is that of the member. -/
@[simp] theorem toExpr_lone (op : Connective) (head : Derivation) :
    (chain op head []).toExpr = head.toExpr := by
  simp [toExpr, Expr.join]

/-- The expression of a longer chain is a chain. -/
@[simp] theorem toExpr_chain (op : Connective) (head m : Derivation) (tail : List Derivation) :
    (chain op head (m :: tail)).toExpr = .chain op ((head :: m :: tail).map toExpr) := by
  simp [toExpr, Expr.join]

/-- The canonical ids of several trees are joined. -/
theorem cids_eq (ds : List Derivation) : cids ds = String.join (ds.map cid) := by
  induction ds with
  | nil => rfl
  | cons d ds ih => rw [cids, ih, List.map_cons, String.join_cons]

/-- The leaves of several trees come one tree after the other. -/
theorem leavesOf_eq (ds : List Derivation) : leavesOf ds = ds.flatMap leaves := by
  induction ds with
  | nil => rfl
  | cons d ds ih => rw [leavesOf, ih, List.flatMap_cons]

/-- The leaves of a chain are those of its members. -/
theorem leaves_chain (op : Connective) (head : Derivation) (tail : List Derivation) :
    (chain op head tail).leaves = (head :: tail).flatMap leaves := by
  rw [leaves, leavesOf_eq, List.flatMap_cons]

/-- The chains of several trees come one tree after the other. -/
theorem chainsOf_eq (ds : List Derivation) : chainsOf ds = ds.flatMap (chains false) := by
  induction ds with
  | nil => rfl
  | cons d ds ih => rw [chainsOf, ih, List.flatMap_cons]

/-- The chains of a chain are itself and those of its members. -/
theorem chains_chain (bracketed : Bool) (op : Connective) (head m : Derivation)
    (tail : List Derivation) :
    (chain op head (m :: tail)).chains bracketed =
      { id :=
          if bracketed then "(" ++ cid (.chain op head (m :: tail)) ++ ")"
          else cid (.chain op head (m :: tail))
        op := op
        members := head :: m :: tail } :: (head :: m :: tail).flatMap (chains false) := by
  rw [chains, chainsOf_eq, List.flatMap_cons, List.flatMap_cons]

/-- To prove a property of every tree that has the chain `c`, prove it where the chain itself
stands, and pass it on to brackets and chains around a tree that has it. -/
theorem chains_induct {c : Occurrence} {motive : Bool → Derivation → Prop}
    (group : ∀ bracketed content, motive true content → motive bracketed (.group content))
    (lone : ∀ bracketed op head, motive bracketed head → motive bracketed (.chain op head []))
    (own : ∀ bracketed op head m tail, c.members = head :: m :: tail →
      motive bracketed (.chain op head (m :: tail)))
    (member : ∀ bracketed op head m tail, ∀ d ∈ head :: m :: tail, motive false d →
      motive bracketed (.chain op head (m :: tail)))
    {bracketed : Bool} {d : Derivation} (hc : c ∈ d.chains bracketed) : motive bracketed d := by
  induction d using loneInduct generalizing bracketed with
  | leaf l => simp [chains] at hc
  | group content ih => exact group bracketed content (@ih true hc)
  | lone op head ih => exact lone bracketed op head (ih (by simpa [chains] using hc))
  | chain op head m tail ih =>
    rw [chains_chain, List.mem_cons, List.mem_flatMap] at hc
    rcases hc with rfl | ⟨d, hd, hc⟩
    · exact own bracketed op head m tail rfl
    · exact member bracketed op head m tail d hd (ih d hd hc)

/-- The expression has the canonical id of the tree. -/
theorem canonicalId_toExpr (d : Derivation) : d.toExpr.canonicalId = d.cid := by
  induction d using loneInduct with
  | leaf l => rw [toExpr, Expr.canonicalId_leaf, cid]
  | group content ih => rw [toExpr, Expr.canonicalId_group, ih, cid]
  | lone op head ih => rw [toExpr_lone, ih, cid]
  | chain op head m tail ih =>
    have hmembers : ((head :: m :: tail).map toExpr).map Expr.canonicalId =
        (head :: m :: tail).map cid := by
      rw [List.map_map]
      exact List.map_congr_left ih
    rw [toExpr_chain, Expr.canonicalId_chain, hmembers, cid, cids_eq]
    simp

/-- The expression is a chain exactly when the tree is one. -/
theorem isChain_toExpr (d : Derivation) : d.toExpr.isChain = d.isChain := by
  induction d using loneInduct with
  | leaf l => rfl
  | group content ih => rfl
  | lone op head ih => rw [toExpr_lone, ih, isChain]
  | chain op head m tail ih => rw [toExpr_chain, Expr.isChain, isChain]

/-- The node of the expression is that of the tree. -/
theorem nodeId_toExpr (d : Derivation) : d.toExpr.nodeId = d.nid := by
  induction d using loneInduct with
  | leaf l => rfl
  | group content ih =>
    rw [toExpr, Expr.nodeId_group, Expr.canonicalId_group, isChain_toExpr, canonicalId_toExpr, ih,
      nid]
  | lone op head ih => rw [toExpr_lone, ih, nid]
  | chain op head m tail ih =>
    rw [toExpr_chain, Expr.nodeId, ← toExpr_chain, canonicalId_toExpr, nid]

/-- The expression has the flags of the tree. -/
theorem edgeFlags_toExpr (d : Derivation) : d.toExpr.edgeFlags = d.flags := by
  induction d using loneInduct with
  | leaf l => rfl
  | group content ih => rw [toExpr, Expr.edgeFlags, ih, flags]
  | lone op head ih => rw [toExpr_lone, ih, flags]
  | chain op head m tail ih => rw [toExpr_chain, Expr.edgeFlags, flags]

/-- The expression has the leaves of the tree. -/
theorem leaves_toExpr (d : Derivation) : d.toExpr.leaves = d.leaves := by
  induction d using loneInduct with
  | leaf l => rfl
  | group content ih => rw [toExpr, Expr.leaves, ih, leaves]
  | lone op head ih => rw [toExpr_lone, ih, leaves_chain, List.flatMap_singleton]
  | chain op head m tail ih =>
    rw [toExpr_chain, Expr.leaves, Expr.leavesOf_eq, leaves_chain, List.flatMap_map]
    exact List.flatMap_congr ih

/-- The chain of the expression for a chain of the tree. -/
def Occurrence.toChain (c : Occurrence) : Chain :=
  ⟨c.id, c.op, c.members.map toExpr⟩

/-- The expression has the chains of the tree. -/
theorem chainsAt_toExpr (d : Derivation) (bracketed : Bool) :
    d.toExpr.chainsAt (if bracketed then "(" ++ d.cid ++ ")" else d.cid) =
      (d.chains bracketed).map Occurrence.toChain := by
  -- Brackets are passed on to their content, so the induction is for both ids at once.
  induction d using loneInduct generalizing bracketed with
  | leaf l => simp [toExpr, Expr.chainsAt, chains]
  | group content ih =>
    rw [toExpr, Expr.chainsAt, Expr.canonicalId_group, canonicalId_toExpr, chains]
    exact ih true
  | lone op head ih =>
    rw [toExpr_lone, cid, chains]
    exact ih bracketed
  | chain op head m tail ih =>
    have hmembers : Expr.chainsOf ((head :: m :: tail).map toExpr) =
        ((head :: m :: tail).flatMap (chains false)).map Occurrence.toChain := by
      rw [Expr.chainsOf_eq, List.flatMap_map, List.map_flatMap]
      refine List.flatMap_congr fun d hd => ?_
      rw [Expr.chains, canonicalId_toExpr]
      exact ih d hd false
    rw [toExpr_chain, Expr.chainsAt, hmembers, chains_chain]
    rfl

/-- The expression by itself has the chains of the tree outside all brackets. -/
theorem chains_toExpr (d : Derivation) :
    d.toExpr.chains = (d.chains false).map Occurrence.toChain := by
  rw [Expr.chains, canonicalId_toExpr]
  exact chainsAt_toExpr d false

end Derivation

/-! ## The leaves of derived trees -/

/-- A connective is no requisite. -/
theorem Connective.token_ne_requisite (op : Connective) : op.token ≠ .requisite := by
  cases op <;> simp [token]

/-- The leaves of derived trees are, in order, those that the requisites among the tokens write. -/
theorem Derives.decode_requisites {n : Nonterminal} {ts : List Token} {ds : List Derivation}
    (h : Derives n ts ds) :
    ((ts.filter fun t => t.kind = .requisite).map fun t => Leaf.decode t.value) =
      (Derivation.leavesOf ds).map .ok := by
  have hother {t : Token} (ht : t.kind ≠ .requisite) (ts : List Token) :
      ((t :: ts).filter fun t => t.kind = .requisite) =
        ts.filter fun t => t.kind = .requisite :=
    List.filter_cons_of_neg (by simpa using ht)
  simp only [Derivation.leavesOf_eq] at *
  induction h with
  | chain first others ihfirst ihothers =>
    rw [List.flatMap_singleton] at ihfirst ⊢
    rw [List.filter_append, List.map_append, ihfirst, ihothers, Derivation.leaves_chain,
      List.flatMap_cons, List.map_append]
  | none => rfl
  | @more op t ts us head tail sign first others ihfirst ihothers =>
    have hsign : t.kind ≠ .requisite := by
      rw [sign]
      exact op.token_ne_requisite
    rw [List.flatMap_singleton] at ihfirst
    rw [hother hsign, List.filter_append, List.map_append, ihfirst, ihothers, List.flatMap_cons,
      List.map_append]
  | leaf kind decode => simp [kind, decode, Derivation.leaves]
  | @group t u ts content opening inner closing ih =>
    have hclosing : u.kind ≠ .requisite := by simp [closing]
    rw [List.flatMap_singleton] at ih ⊢
    rw [hother (by simp [opening]), List.filter_append, hother hclosing, List.filter_nil,
      List.append_nil, ih, Derivation.leaves]

/-- Every leaf of derived trees is written by a requisite among the tokens. -/
theorem Derives.exists_token {n : Nonterminal} {ts : List Token} {ds : List Derivation}
    (h : Derives n ts ds) {l : Leaf} (hl : l ∈ Derivation.leavesOf ds) :
    ∃ t ∈ ts, t.kind = .requisite ∧ Leaf.decode t.value = .ok l := by
  have hdecoded := List.mem_map_of_mem (f := Except.ok (ε := LeafFault)) hl
  rw [← h.decode_requisites, List.mem_map] at hdecoded
  obtain ⟨t, ht, hdecode⟩ := hdecoded
  obtain ⟨hts, hkind⟩ := List.mem_filter.1 ht
  exact ⟨t, hts, of_decide_eq_true hkind, hdecode⟩

/-- Every requisite among the tokens writes one of the leaves. -/
theorem Derives.exists_leaf {n : Nonterminal} {ts : List Token} {ds : List Derivation}
    (h : Derives n ts ds) {t : Token} (ht : t ∈ ts) (hkind : t.kind = .requisite) :
    ∃ l ∈ Derivation.leavesOf ds, Leaf.decode t.value = .ok l := by
  have hdecoded : Leaf.decode t.value ∈
      (ts.filter fun t => t.kind = .requisite).map fun t => Leaf.decode t.value :=
    List.mem_map_of_mem (List.mem_filter.2 ⟨ht, decide_eq_true hkind⟩)
  rw [h.decode_requisites, List.mem_map] at hdecoded
  obtain ⟨l, hl, hdecode⟩ := hdecoded
  exact ⟨l, hl, hdecode.symm⟩

/-- The leaves that the tokens of a text write are named by ids that begin with no bracket and no
connective. -/
theorem Derives.startsPlain {text : String} {d : Derivation}
    (h : Derives .expression (tokens text) [d]) {l : Leaf} (hl : l ∈ d.leaves) : l.StartsPlain := by
  obtain ⟨t, ht, hkind, hdecode⟩ := h.exists_token (by simpa [Derivation.leavesOf] using hl)
  exact Leaf.startsPlain_of_decode (leafText_of_mem_tokens ht hkind) hdecode

/-- So are the leaves of two texts together. -/
theorem Derives.startsPlain_append {text text' : String} {d d' : Derivation}
    (h : Derives .expression (tokens text) [d]) (h' : Derives .expression (tokens text') [d']) :
    ∀ l ∈ d.leaves ++ d'.leaves, l.StartsPlain := by
  intro l hl
  rcases List.mem_append.1 hl with hl | hl
  · exact h.startsPlain hl
  · exact h'.startsPlain hl

/-! ## The graph of a text -/

/-- The graph of the expression of a derivation tree is the one that the tree says. -/
theorem Derivation.reading_graph (owner : String) (d : Derivation)
    (hd : ∀ l ∈ d.leaves, l.StartsPlain) : Reading owner d (d.toExpr.graph owner) where
  root := congrArg some (nodeId_toExpr d)
  nodes n := by
    rw [Expr.mem_nodes_iff (by rwa [leaves_toExpr]), leaves_toExpr, chains_toExpr]
    simp [Occurrence.toChain, Chain.node]
  nodes_apart := nodup_map_firsts _ _
  relations r := by
    rw [Expr.mem_relations_iff, nodeId_toExpr, chains_toExpr]
    simp [Occurrence.toChain, Expr.edge, nodeId_toExpr, edgeFlags_toExpr]
  relations_apart := nodup_firsts _
  courses c := by rw [Expr.mem_courses_iff, leaves_toExpr]
  courses_apart := nodup_map_firsts _ _

/-- A text whose tokens are derived has a graph, which is the one that their tree says. -/
theorem Derives.exists_reading {text : String} {d : Derivation}
    (h : Derives .expression (tokens text) [d]) (owner : String) :
    ∃ g, Graph.ofText owner text = .ok g ∧ Reading owner d g :=
  ⟨d.toExpr.graph owner, h.ofText_eq_ok owner,
    d.reading_graph owner fun _ hl => h.startsPlain hl⟩

/-- The graph of an accepted text is empty, as that of the empty text, or the one that the tree of
its tokens says. -/
theorem Graph.eq_empty_or_exists_reading {owner text : String} {g : Graph}
    (h : Graph.ofText owner text = .ok g) :
    g = {} ∨ ∃ d, Derives .expression (tokens text) [d] ∧ Reading owner d g := by
  rcases Graph.eq_empty_or_exists_derives h with ⟨-, hg⟩ | ⟨d, hd, rfl⟩
  · exact .inl hg
  · exact .inr ⟨d, hd, d.reading_graph owner fun l hl => hd.startsPlain hl⟩

/-- A text that is not empty is accepted exactly when its tokens have a derivation tree. It then has
only one, and the graph is the one that the tree says. -/
theorem Graph.ofText_reads (owner : String) {expression : String} (h : expression ≠ "") :
    (∀ g, Graph.ofText owner expression = .ok g →
      ∃ d, (∀ d', DerivesAll (tokenize expression) d' ↔ d' = d) ∧ Reading owner d g) ∧
    ∀ d, DerivesAll (tokenize expression) d → ∃ g, Graph.ofText owner expression = .ok g := by
  constructor
  · intro g hg
    obtain ⟨d, hd, rfl⟩ := (Graph.ofText_eq_ok_iff h).1 hg
    refine ⟨d, fun d' => ?_, d.reading_graph owner fun l hl => hd.startsPlain hl⟩
    rw [derivesAll_tokenize]
    constructor
    · intro hd'
      simpa using hd'.unique hd
    · rintro rfl
      exact hd
  · intro d hd
    exact ⟨_, (Graph.ofText_eq_ok_iff h).2 ⟨d, derivesAll_tokenize.1 hd, rfl⟩⟩

namespace Derivation

/-- The tree of `(A&B)|A`, its leaves without flags. -/
def nested : Derivation :=
  .chain .or
    (.chain .and
      (.group (.chain .or (.chain .and (.leaf (.bare "A")) [.leaf (.bare "B")]) [])) [])
    [.chain .and (.leaf (.bare "A")) []]

/-- It is derived. -/
theorem derivesAll_nested : DerivesAll (tokenize "(A{ffff}&B{ffff})|A{ffff}") nested := by
  have hinner : Derives .expression
      [⟨.requisite, "A{ffff}", 1⟩, ⟨.and, "&", 8⟩, ⟨.requisite, "B{ffff}", 9⟩]
      [.chain .or (.chain .and (.leaf (.bare "A")) [.leaf (.bare "B")]) []] :=
    .lone (@Derives.chain .and [_] _ _ _ (.leaf rfl rfl)
      (@Derives.more .and _ [_] _ _ _ rfl (.leaf rfl rfl) .none))
  have hgroup : Derives .term
      [⟨.leftParen, "(", 0⟩, ⟨.requisite, "A{ffff}", 1⟩, ⟨.and, "&", 8⟩,
        ⟨.requisite, "B{ffff}", 9⟩, ⟨.rightParen, ")", 16⟩]
      [.chain .and
        (.group (.chain .or (.chain .and (.leaf (.bare "A")) [.leaf (.bare "B")]) [])) []] :=
    @Derives.lone .and _ _ (.group rfl hinner rfl)
  have hlast : Derives .term [⟨.requisite, "A{ffff}", 18⟩] [.chain .and (.leaf (.bare "A")) []] :=
    @Derives.lone .and _ _ (.leaf rfl rfl)
  exact derivesAll_tokenize.2 (@Derives.chain .or _ _ _ _ hgroup
    (@Derives.more .or ⟨.or, "|", 17⟩ _ _ _ _ rfl hlast .none))

end Derivation

/-- The expression `(A&B)|A` is accepted, and its graph is read off the tree, where the root is the
disjunction and the conjunction keeps its brackets. -/
theorem Graph.ofText_reads_nested :
    "(A{ffff}&B{ffff})|A{ffff}" ≠ "" ∧
      ∃ g, Graph.ofText "C" "(A{ffff}&B{ffff})|A{ffff}" = .ok g ∧
        Reading "C" Derivation.nested g ∧ g.root = some "|(&AB)A" := by
  have hne : "(A{ffff}&B{ffff})|A{ffff}" ≠ "" := by decide
  obtain ⟨g, hg⟩ := (Graph.ofText_reads "C" hne).2 _ Derivation.derivesAll_nested
  obtain ⟨d, hd, hread⟩ := (Graph.ofText_reads "C" hne).1 g hg
  obtain rfl := (hd _).1 Derivation.derivesAll_nested
  exact ⟨hne, g, hg, hread, hread.root⟩

end Requisite
