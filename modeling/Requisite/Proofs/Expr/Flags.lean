import Requisite.Proofs.Expr.Rooted
import Requisite.Proofs.Expr.Sharing

/-!
# Flags do not enter the structure of a graph

Two texts that differ only in the flags and grades of their leaves have graphs of one structure: the
same nodes in the same order, the same root, and relations with the same ends
(`Graph.structure_eq_of_outline_eq`). Which courses are named and what the relations say may differ,
and so may the number of relations, since of two that agree in everything only one is kept.

The outlines of the tokens determine the derivation tree up to the flags of its leaves
(`Derives.bare_eq_of_outline_eq`). Without the flags, an expression records the same nodes and
relations with the same ends, one by one; that some of them are repeats is seen only afterwards.
-/

namespace Requisite

/-! ## Outlines -/

/-- What a token is and, in a requisite, the id of the leaf. -/
def Token.outline (t : Token) : TokenKind × Option String :=
  (t.kind, if t.kind = .requisite then (Leaf.decode t.value).toOption.map Leaf.id else none)

/-- The token of an outline, whose leaf says nothing besides its id. -/
def Token.ofOutline (outline : TokenKind × Option String) : Token where
  kind := outline.1
  value := (outline.2.map fun id => (Leaf.bare id).encode).getD ""
  position := 0

/-- The outlines of its tokens derive a tree without the flags of its leaves. -/
theorem Derives.outline {n : Nonterminal} {ts : List Token} {ds : List Derivation}
    (h : Derives n ts ds) :
    Derives n ((ts.map Token.outline).map Token.ofOutline) (ds.map Derivation.bare) := by
  have hbare (d : Derivation) : d.mapLeaves (fun l => .bare l.id) = d.bare := by
    induction d with
    | leaf l => rw [Derivation.mapLeaves, Derivation.bare]
    | group content ih => rw [Derivation.mapLeaves, Derivation.bare, ih]
    | chain op head tail ihhead ihtail =>
      rw [Derivation.mapLeaves, Derivation.bare, ihhead, List.map_congr_left ihtail]
  rw [List.map_map, ← funext hbare]
  refine h.map (fun t => rfl) fun t l hkind hdecode => ?_
  obtain ⟨-, -, hne, hid, -⟩ := Leaf.decode_eq_ok hdecode
  have hvalue : (Token.ofOutline t.outline).value = (Leaf.bare l.id).encode := by
    simp [Token.ofOutline, Token.outline, hkind, hdecode, Except.toOption]
  rw [Function.comp_apply, hvalue]
  exact Leaf.decode_encode hne hid

/-- Tokens with the same outlines have trees that differ only in the flags of their leaves. -/
theorem Derives.bare_eq_of_outline_eq {n : Nonterminal} {ts ts' : List Token}
    {ds ds' : List Derivation} (h : Derives n ts ds) (h' : Derives n ts' ds')
    (houtline : ts.map Token.outline = ts'.map Token.outline) :
    ds.map Derivation.bare = ds'.map Derivation.bare := by
  have hbare := h.outline
  rw [houtline] at hbare
  exact hbare.unique h'.outline

/-! ## What is recorded without flags -/

namespace Expr

/-- Flags do not enter the nodes recorded when an expression is stored. -/
theorem storedNodes_bare (e : Expr) (id : String) : e.bare.storedNodes id = e.storedNodes id := by
  induction e generalizing id with
  | leaf l =>
    rw [bare]
    rfl
  | group content ih =>
    rw [bare]
    rfl
  | chain op members ih =>
    rw [bare, storedNodes, storedNodes, waitingNodes_eq, waitingNodes_eq, List.flatMap_map]
    refine congrArg _ (List.flatMap_congr fun m hm => ?_)
    rw [canonicalId_bare, ih m hm]

/-- Flags do not enter the nodes that are recorded while an expression is read. -/
theorem readNodes_bare (e : Expr) : e.bare.readNodes = e.readNodes := by
  induction e with
  | leaf l => rw [bare, readNodes, readNodes, Leaf.bare]
  | group content ih =>
    rw [bare, readNodes, readNodes, ih, storedNodes_bare, ← bare, canonicalId_bare]
  | chain op members ih =>
    rw [bare, readNodes, readNodes, readNodesOf_eq, readNodesOf_eq, List.flatMap_map]
    exact List.flatMap_congr ih

/-- The relation to a member has the same ends without flags. -/
theorem ends_edge_bare (source : String) (m : Expr) :
    (edge source m.bare).ends = (edge source m).ends := by
  rw [edge, edge, Relation.ends_between, Relation.ends_between, nodeId_bare]

/-- So do the relations recorded when an expression is stored. -/
theorem ends_storedRelations_bare (e : Expr) (id : String) :
    (e.bare.storedRelations id).map Relation.ends = (e.storedRelations id).map Relation.ends := by
  induction e generalizing id with
  | leaf l =>
    rw [bare]
    rfl
  | group content ih =>
    rw [bare]
    rfl
  | chain op members ih =>
    rw [bare, storedRelations, storedRelations, memberRelations_eq, memberRelations_eq,
      List.flatMap_map, List.map_flatMap, List.map_flatMap]
    refine List.flatMap_congr fun m hm => ?_
    rw [List.map_append, List.map_append, canonicalId_bare, ih m hm, List.map_singleton,
      List.map_singleton, ends_edge_bare]

/-- Flags do not enter the ends of the relations that are recorded while an expression is read. -/
theorem ends_readRelations_bare (e : Expr) :
    e.bare.readRelations.map Relation.ends = e.readRelations.map Relation.ends := by
  induction e with
  | leaf l => rw [bare, readRelations, readRelations]
  | group content ih =>
    rw [bare, readRelations, readRelations, List.map_append, List.map_append, ih,
      ends_storedRelations_bare, ← bare, canonicalId_bare]
  | chain op members ih =>
    rw [bare, readRelations, readRelations, readRelationsOf_eq, readRelationsOf_eq,
      List.flatMap_map, List.map_flatMap, List.map_flatMap]
    exact List.flatMap_congr ih

/-! ## The graph without flags -/

/-- Flags do not enter the nodes of the graph. -/
theorem nodes_graph_bare (owner : String) (e : Expr) :
    (e.bare.graph owner).nodes = (e.graph owner).nodes := by
  rw [graph, graph, readNodes_bare, storedNodes_bare, canonicalId_bare]

/-- Flags do not enter the root of the graph. -/
theorem root_graph_bare (owner : String) (e : Expr) :
    (e.bare.graph owner).root = (e.graph owner).root := by
  rw [graph, graph, nodeId_bare]

/-- Flags do not enter the ends of the relations of the graph. -/
theorem mem_ends_graph_bare (owner : String) (e : Expr) (p : String × String) :
    p ∈ (e.bare.graph owner).relations.map Relation.ends ↔
      p ∈ (e.graph owner).relations.map Relation.ends := by
  -- The relations that are kept are those recorded, though not as often.
  have hkept (e : Expr) : p ∈ (e.graph owner).relations.map Relation.ends ↔
      p ∈ (e.readRelations ++ e.storedRelations e.canonicalId ++
        [({ source := owner, target := e.nodeId } : Relation)]).map Relation.ends := by
    simp only [graph, List.mem_map, mem_firsts_id]
  rw [hkept, hkept]
  simp only [List.map_append, ends_readRelations_bare, ends_storedRelations_bare, canonicalId_bare,
    nodeId_bare]

end Expr

/-- Texts whose tokens agree in kinds and in the ids of their leaves, and which are both accepted
for an owner, have graphs with the same nodes in the same order, with the same root, and with
relations between the same ids. -/
theorem Graph.structure_eq_of_outline_eq {owner text text' : String} {g g' : Graph}
    (houtline : (tokenize text).map Token.outline = (tokenize text').map Token.outline)
    (h : Graph.ofText owner text = .ok g) (h' : Graph.ofText owner text' = .ok g') :
    g.nodes = g'.nodes ∧ g.root = g'.root ∧
      ∀ p, p ∈ g.relations.map Relation.ends ↔ p ∈ g'.relations.map Relation.ends := by
  have htokens : (tokens text).map Token.outline = (tokens text').map Token.outline := by
    rw [tokenize, tokenize, List.map_append, List.map_append] at houtline
    exact (List.append_inj' houtline rfl).1
  have hnil : tokens text = [] ↔ tokens text' = [] := by
    rw [← List.map_eq_nil_iff, htokens, List.map_eq_nil_iff]
  rcases eq_empty_or_exists_derives h with ⟨hempty, rfl⟩ | ⟨d, hd, rfl⟩
  · rcases eq_empty_or_exists_derives h' with ⟨-, rfl⟩ | ⟨d', hd', -⟩
    · exact ⟨rfl, rfl, fun p => Iff.rfl⟩
    · exact absurd (hnil.1 hempty) hd'.ne_nil
  · rcases eq_empty_or_exists_derives h' with ⟨hempty', -⟩ | ⟨d', hd', rfl⟩
    · exact absurd (hnil.2 hempty') hd.ne_nil
    · have htree : d.bare = d'.bare := by simpa using hd.bare_eq_of_outline_eq hd' htokens
      have hexpr : d.toExpr.bare = d'.toExpr.bare := by
        rw [← Derivation.toExpr_bare, htree, Derivation.toExpr_bare]
      refine ⟨?_, ?_, fun p => ?_⟩
      · rw [← Expr.nodes_graph_bare, hexpr, Expr.nodes_graph_bare]
      · rw [← Expr.root_graph_bare, hexpr, Expr.root_graph_bare]
      · rw [← Expr.mem_ends_graph_bare, hexpr, Expr.mem_ends_graph_bare]

namespace Derivation

/-- The tree of `A&A`, where the first leaf may be enforced. -/
def requiredTwice (enforced : Bool) : Derivation :=
  .chain .or
    (.chain .and (.leaf ⟨"A", false, enforced, false, false, ""⟩) [.leaf (.bare "A")]) []

/-- It is derived. -/
theorem derives_requiredTwice :
    Derives .expression (tokens "A{ffff}&A{ffff}") [requiredTwice false] ∧
      Derives .expression (tokens "A{ftff}&A{ffff}") [requiredTwice true] :=
  ⟨.lone (@Derives.chain .and [_] _ _ _ (.leaf rfl rfl)
      (@Derives.more .and _ [_] _ _ _ rfl (.leaf rfl rfl) .none)),
    .lone (@Derives.chain .and [_] _ _ _ (.leaf rfl rfl)
      (@Derives.more .and _ [_] _ _ _ rfl (.leaf rfl rfl) .none))⟩

/-- Of the relations from `A&A` to `A` one is kept, or both, if they differ. -/
theorem relations_requiredTwice (enforced : Bool) :
    ((requiredTwice enforced).toExpr.graph "C").relations =
      (if enforced then [⟨"&AA", "A", some true, some false, some false, some ""⟩] else []) ++
        [⟨"&AA", "A", some false, some false, some false, some ""⟩,
          { source := "C", target := "&AA" }] := by
  rw [requiredTwice, toExpr_lone, toExpr_chain]
  simp only [List.map, toExpr, Expr.graph, Expr.readRelations, Expr.readRelationsOf,
    Expr.storedRelations, Expr.memberRelations]
  cases enforced with
  | false => rfl
  | true => rfl

end Derivation

/-- The graphs of `A&A`, where the first leaf is enforced or not, differ in the number of relations
and have one structure. -/
theorem Graph.structure_eq_of_outline_eq_requiredTwice :
    (tokenize "A{ffff}&A{ffff}").map Token.outline =
        (tokenize "A{ftff}&A{ffff}").map Token.outline ∧
      ∃ g g', Graph.ofText "C" "A{ffff}&A{ffff}" = .ok g ∧
        Graph.ofText "C" "A{ftff}&A{ffff}" = .ok g' ∧ g.relations.length = 2 ∧
        g'.relations.length = 3 ∧ g.nodes = g'.nodes ∧ g.root = g'.root ∧
        ∀ p, p ∈ g.relations.map Relation.ends ↔ p ∈ g'.relations.map Relation.ends := by
  obtain ⟨hadvised, henforced⟩ := Derivation.derives_requiredTwice
  have houtline : (tokenize "A{ffff}&A{ffff}").map Token.outline =
      (tokenize "A{ftff}&A{ffff}").map Token.outline := by decide
  have hg := hadvised.ofText_eq_ok "C"
  have hg' := henforced.ofText_eq_ok "C"
  refine ⟨houtline, _, _, hg, hg', ?_, ?_, Graph.structure_eq_of_outline_eq houtline hg hg'⟩
  · rw [Derivation.relations_requiredTwice]
    rfl
  · rw [Derivation.relations_requiredTwice]
    rfl

end Requisite
