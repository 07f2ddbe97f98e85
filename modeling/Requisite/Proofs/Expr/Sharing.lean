import Requisite.Proofs.Expr.Truth

/-!
# Ids that expressions share

Expressions share nodes by their ids. Where the ids of all leaves can be told apart and conjunctions
within disjunctions stand in brackets, operands with one canonical id are one tree, up to the flags
of its leaves (`Derivation.bare_eq_of_cid_eq`), whichever expressions they stand in. The id of a
chain therefore names the same children in every graph (`Reading.mem_children`).

Ids determine the `Expr` of an operand (`Expr.bare_eq_of_canonicalId_eq`), which leaves out the
chains of one member. To get from it to the tree, the flags are taken out of the derivation as well
(`Derives.bare`), so that the grammar's own `Derives.eq_of_map_toExpr_eq` applies.
-/

namespace Requisite

/-- The nonterminal that derives an expression without chains of one member around it. -/
def Expr.nonterminal : Expr → Nonterminal
  | .leaf _ => .factor
  | .group _ => .factor
  | .chain op _ => .chain op

/-- Flags do not enter the grammar. -/
theorem Expr.nonterminal_bare (e : Expr) : e.bare.nonterminal = e.nonterminal := by
  cases e <;> simp [bare, nonterminal]

namespace Derivation

/-! ## Trees without flags -/

/-- The tree without the flags of its leaves. -/
def bare : Derivation → Derivation
  | .leaf l => .leaf (.bare l.id)
  | .group content => .group content.bare
  | .chain op head tail => .chain op head.bare (tail.map bare)

/-- A tree without flags has the expression without flags. -/
theorem toExpr_bare (d : Derivation) : d.bare.toExpr = d.toExpr.bare := by
  induction d using loneInduct with
  | leaf l => rw [bare, toExpr, toExpr, Expr.bare]
  | group content ih => rw [bare, toExpr, toExpr, Expr.bare, ih]
  | lone op head ih => rw [bare, List.map_nil, toExpr_lone, toExpr_lone, ih]
  | chain op head m tail ih =>
    have hmembers : (head :: m :: tail).map (toExpr ∘ bare) =
        (head :: m :: tail).map (Expr.bare ∘ toExpr) := List.map_congr_left ih
    rw [bare, List.map_cons, toExpr_chain, toExpr_chain, Expr.bare, List.map_map, ← hmembers]
    simp

/-! ## Operands -/

/-- `HasOperand d o`: the tree `o` is an operand in `d`, that is a leaf, an expression in brackets
or a chain of two or more members. -/
inductive HasOperand : Derivation → Derivation → Prop where
  /-- A leaf is an operand. -/
  | leaf {l : Leaf} : HasOperand (.leaf l) (.leaf l)
  /-- An expression in brackets is an operand. -/
  | group {content : Derivation} : HasOperand (.group content) (.group content)
  /-- A chain of two or more members is an operand. -/
  | chain {op : Connective} {head m : Derivation} {tail : List Derivation} :
      HasOperand (.chain op head (m :: tail)) (.chain op head (m :: tail))
  /-- There are those within brackets. -/
  | content {content o : Derivation} (inner : HasOperand content o) : HasOperand (.group content) o
  /-- There are those in the members of a chain, which may have one member. -/
  | member {op : Connective} {head m o : Derivation} {tail : List Derivation}
      (member : m ∈ head :: tail) (inner : HasOperand m o) : HasOperand (.chain op head tail) o

/-- Operands of a tree whose ids can be read back have ids that can be read back. -/
theorem HasOperand.readable {ls : List Leaf} {d o : Derivation} (h : d.HasOperand o)
    (hd : d.toExpr.Readable ls) : o.toExpr.Readable ls := by
  induction h with
  | leaf => exact hd
  | group => exact hd
  | chain => exact hd
  | content inner ih =>
    rw [toExpr] at hd
    exact ih hd.content
  | @member op head m o tail member inner ih =>
    refine ih ?_
    cases tail with
    | nil =>
      obtain rfl : m = head := by simpa using member
      rwa [toExpr_lone] at hd
    | cons second tail =>
      rw [toExpr_chain] at hd
      exact hd.member (List.mem_map_of_mem member)

end Derivation

/-- An operand of a derived tree is derived. -/
theorem Derives.exists_operand {n : Nonterminal} {ts : List Token} {ds : List Derivation}
    (h : Derives n ts ds) {d o : Derivation} (hd : d ∈ ds) (ho : d.HasOperand o) :
    ∃ us, Derives o.toExpr.nonterminal us [o] := by
  induction h generalizing d with
  | @chain op ts us head tail first others ihfirst ihothers =>
    obtain rfl := List.mem_singleton.1 hd
    cases ho with
    | chain =>
      rw [Derivation.toExpr_chain, Expr.nonterminal]
      exact ⟨ts ++ us, .chain first others⟩
    | member member inner =>
      rcases List.mem_cons.1 member with rfl | member
      · exact ihfirst List.mem_cons_self inner
      · exact ihothers member inner
  | none => simp at hd
  | more sign first others ihfirst ihothers =>
    rcases List.mem_cons.1 hd with rfl | hd
    · exact ihfirst List.mem_cons_self ho
    · exact ihothers hd ho
  | @leaf t l kind decode =>
    obtain rfl := List.mem_singleton.1 hd
    cases ho with
    | leaf => exact ⟨[t], .leaf kind decode⟩
  | @group t u ts content opening inner closing ih =>
    obtain rfl := List.mem_singleton.1 hd
    cases ho with
    | group => exact ⟨t :: (ts ++ [u]), .group opening inner closing⟩
    | content inner => exact ih List.mem_cons_self inner

/-- Trees without their flags are derived like the trees, from tokens that write no flags. -/
theorem Derives.bare {n : Nonterminal} {ts : List Token} {ds : List Derivation}
    (h : Derives n ts ds) : ∃ us, Derives n us (ds.map Derivation.bare) := by
  induction h with
  | chain first others ihfirst ihothers =>
    obtain ⟨us, hus⟩ := ihfirst
    obtain ⟨vs, hvs⟩ := ihothers
    refine ⟨us ++ vs, ?_⟩
    rw [List.map_singleton, Derivation.bare]
    exact .chain hus hvs
  | none => exact ⟨[], .none⟩
  | more sign first others ihfirst ihothers =>
    obtain ⟨us, hus⟩ := ihfirst
    obtain ⟨vs, hvs⟩ := ihothers
    exact ⟨_ :: (us ++ vs), .more sign hus hvs⟩
  | @leaf t l kind decode =>
    obtain ⟨-, -, hne, hid, -⟩ := Leaf.decode_eq_ok decode
    rw [List.map_singleton, Derivation.bare]
    exact ⟨[⟨.requisite, (Leaf.bare l.id).encode, t.position⟩],
      .leaf rfl (Leaf.decode_encode hne hid)⟩
  | group opening inner closing ih =>
    obtain ⟨us, hus⟩ := ih
    rw [List.map_singleton, Derivation.bare]
    exact ⟨_ :: (us ++ [_]), .group opening hus closing⟩

/-! ## Operands with one id -/

section

variable {ls : List Leaf} {ts ts' : List Token} {d d' : Derivation}

/-- Operands of derived trees that have one canonical id are one tree, up to the flags of its
leaves. -/
theorem Derivation.bare_eq_of_cid_eq (hids : IdsApart ls) (hstart : ∀ l ∈ ls, l.StartsPlain)
    (hd : Derives .expression ts [d]) (hd' : Derives .expression ts' [d'])
    (hread : d.toExpr.Readable ls) (hread' : d'.toExpr.Readable ls) {o o' : Derivation}
    (ho : d.HasOperand o) (ho' : d'.HasOperand o') (h : o.cid = o'.cid) : o.bare = o'.bare := by
  have hexpr : o.toExpr.bare = o'.toExpr.bare :=
    Expr.bare_eq_of_canonicalId_eq hids hstart (ho.readable hread) (ho'.readable hread')
      (by rw [canonicalId_toExpr, canonicalId_toExpr, h])
  -- Both are derived by the same nonterminal, also without flags.
  have hnonterminal : o.toExpr.nonterminal = o'.toExpr.nonterminal := by
    rw [← Expr.nonterminal_bare, hexpr, Expr.nonterminal_bare]
  obtain ⟨us, hus⟩ := hd.exists_operand List.mem_cons_self ho
  obtain ⟨vs, hvs⟩ := hd'.exists_operand List.mem_cons_self ho'
  obtain ⟨us', hus'⟩ := hus.bare
  obtain ⟨vs', hvs'⟩ := hvs.bare
  rw [← hnonterminal] at hvs'
  simpa using hus'.eq_of_map_toExpr_eq hvs' (by simp [toExpr_bare, hexpr])

end

/-! ## Children of a node -/

namespace Graph

/-- The relation from the owner to the root. -/
def rootRelation? (g : Graph) (owner : String) : Option Relation :=
  g.root.map fun root => { source := owner, target := root }

/-- The ids of the children of a node: the targets of the relations from it, that from the owner to
the root aside. -/
def children (g : Graph) (owner id : String) : List String :=
  (g.relations.filter fun r => r.source = id ∧ some r ≠ g.rootRelation? owner).map Relation.target

/-- The children of a node other than the owner are the targets of all relations from it. -/
theorem children_eq_targets {g : Graph} {owner id : String} (h : id ≠ owner) :
    g.children owner id = g.targets id := by
  have hroot {r : Relation} (hr : some r = g.rootRelation? owner) : r.source = owner := by
    obtain ⟨root, -, rfl⟩ := Option.map_eq_some_iff.1 hr.symm
    rfl
  have hfilter : ∀ r ∈ g.relations, decide (r.source = id ∧ some r ≠ g.rootRelation? owner) =
      decide (r.source = id) := by
    intro r _
    rw [decide_eq_decide]
    refine and_iff_left_of_imp fun hsource hr => h ?_
    rw [← hsource, hroot hr]
  rw [children, targets, List.filter_congr hfilter]

end Graph

namespace Reading

variable {owner : String} {d : Derivation} {g : Graph}

/-- The children of the node of a chain are the members of the chains that share it. -/
theorem mem_children (h : Reading owner d g) (id t : String) :
    t ∈ g.children owner id ↔ ∃ c ∈ d.chains false, c.id = id ∧ ∃ m ∈ c.members, m.nid = t := by
  have hroot : g.rootRelation? owner = some { source := owner, target := d.nid } := by
    rw [Graph.rootRelation?, h.root, Option.map_some]
  rw [Graph.children, List.mem_map]
  simp only [List.mem_filter, decide_eq_true_eq, hroot, h.relations]
  constructor
  · rintro ⟨r, ⟨hr, rfl, hne⟩, rfl⟩
    rcases hr with rfl | ⟨c, hc, m, hm, rfl⟩
    · exact absurd rfl hne
    · rw [Relation.source_between, Relation.target_between]
      exact ⟨c, hc, rfl, m, hm, rfl⟩
  · rintro ⟨c, hc, rfl, m, hm, rfl⟩
    refine ⟨_, ⟨.inr ⟨c, hc, m, hm, rfl⟩, Relation.source_between _ _ _, fun heq => ?_⟩,
      Relation.target_between _ _ _⟩
    -- The root has no shorter id than the chain, so it is none of its members.
    have htarget : m.nid = d.nid := by
      have := congrArg Relation.target (Option.some.inj heq)
      rwa [Relation.target_between] at this
    have hlt := Derivation.length_nid_lt hc hm
    have hle := Derivation.length_id_le_nid hc
    rw [htarget] at hlt
    omega

/-- A node with a connective is that of a chain. -/
theorem exists_chain_of_kind_ne (h : Reading owner d g) {n : Node} (hn : n ∈ g.nodes)
    (hkind : n.kind ≠ .value) : ∃ c ∈ d.chains false, c.id = n.id := by
  rcases (h.nodes n).1 hn with ⟨l, -, rfl⟩ | ⟨c, hc, rfl⟩
  · exact absurd rfl hkind
  · exact ⟨c, hc, rfl⟩

/-- The children of a node are among those of the chain that has its id in another graph. -/
theorem children_subset {ls : List Leaf} {owner' : String} {d' : Derivation} {g' : Graph}
    (h : Reading owner d g) (h' : Reading owner' d' g') (hids : IdsApart ls)
    (hstart : ∀ l ∈ ls, l.StartsPlain) (hread : d.toExpr.Readable ls)
    (hread' : d'.toExpr.Readable ls) {c' : Derivation.Occurrence} (hc' : c' ∈ d'.chains false) :
    g.children owner c'.id ⊆ g'.children owner' c'.id := by
  intro t ht
  obtain ⟨c, hc, hid, hm⟩ := (h.mem_children c'.id t).1 ht
  have hnids := Derivation.nids_of_id_eq hids hstart hread hread' hc hc' hid
  rw [h'.mem_children]
  rw [← List.mem_map, hnids, List.mem_map] at hm
  exact ⟨c', hc', rfl, hm⟩

end Reading

/-- Of two expressions whose leaves can be told apart together, and whose conjunctions within
disjunctions stand in brackets, operands with one canonical id are one tree up to the flags of its
leaves, and a node with a connective that both graphs have has the same children in both. -/
theorem bare_eq_and_children_eq_of_id_eq {text text' : String} {d d' : Derivation}
    (hd : DerivesAll (tokenize text) d) (hd' : DerivesAll (tokenize text') d')
    (hids : IdsApart (d.leaves ++ d'.leaves)) (hbrackets : d.Bracketed)
    (hbrackets' : d'.Bracketed) :
    (∀ o o', d.HasOperand o → d'.HasOperand o' → o.cid = o'.cid → o.bare = o'.bare) ∧
      ∀ owner owner', ∃ g g', Graph.ofText owner text = .ok g ∧
        Graph.ofText owner' text' = .ok g' ∧
        ∀ n ∈ g.nodes, ∀ n' ∈ g'.nodes, n.kind ≠ .value → n'.kind ≠ .value → n.id = n'.id →
          ∀ t, t ∈ g.children owner n.id ↔ t ∈ g'.children owner' n'.id := by
  have hderives := derivesAll_tokenize.1 hd
  have hderives' := derivesAll_tokenize.1 hd'
  have hstart := hderives.startsPlain_append hderives'
  have hread : d.toExpr.Readable (d.leaves ++ d'.leaves) :=
    (hderives.readable hbrackets).mono (List.subset_append_left _ _)
  have hread' : d'.toExpr.Readable (d.leaves ++ d'.leaves) :=
    (hderives'.readable hbrackets').mono (List.subset_append_right _ _)
  refine ⟨fun o o' ho ho' h => ?_, fun owner owner' => ?_⟩
  · exact Derivation.bare_eq_of_cid_eq hids hstart hderives hderives' hread hread' ho ho' h
  · obtain ⟨g, hg, hreading⟩ := hderives.exists_reading owner
    obtain ⟨g', hg', hreading'⟩ := hderives'.exists_reading owner'
    refine ⟨g, g', hg, hg', fun n hn n' hn' hkind hkind' hid t => ?_⟩
    obtain ⟨c, hc, hcn⟩ := hreading.exists_chain_of_kind_ne hn hkind
    obtain ⟨c', hc', hcn'⟩ := hreading'.exists_chain_of_kind_ne hn' hkind'
    have hsub := hreading.children_subset hreading' hids hstart hread hread' hc'
    have hsub' := hreading'.children_subset hreading hids hstart hread' hread hc
    rw [hcn] at hsub'
    rw [hcn'] at hsub
    rw [← hid] at hsub ⊢
    exact ⟨fun ht => hsub ht, fun ht => hsub' ht⟩

namespace Derivation

/-- The tree of `(A&B)` where `A` is enforced. -/
def enforced : Derivation :=
  .chain .or
    (.chain .and
      (.group (.chain .or
        (.chain .and (.leaf ⟨"A", false, true, false, false, ""⟩) [.leaf (.bare "B")]) [])) []) []

/-- It is derived. -/
theorem derivesAll_enforced : DerivesAll (tokenize "(A{ftff}&B{ffff})") enforced := by
  have hinner : Derives .expression
      [⟨.requisite, "A{ftff}", 1⟩, ⟨.and, "&", 8⟩, ⟨.requisite, "B{ffff}", 9⟩]
      [.chain .or
        (.chain .and (.leaf ⟨"A", false, true, false, false, ""⟩) [.leaf (.bare "B")]) []] :=
    .lone (@Derives.chain .and [_] _ _ _ (.leaf rfl rfl)
      (@Derives.more .and _ [_] _ _ _ rfl (.leaf rfl rfl) .none))
  exact derivesAll_tokenize.2
    (@Derives.ofFactor _ _ (@Derives.group ⟨.leftParen, "(", 0⟩ ⟨.rightParen, ")", 16⟩ _ _ rfl
      hinner rfl))

end Derivation

/-- The group of `A` and `B` is one operand of `(A&B)|A` and of `(A&B)`, although only the second
enforces `A`, and its node has the same children for both. -/
theorem bare_eq_and_children_eq_of_id_eq_enforced :
    IdsApart (Derivation.nested.leaves ++ Derivation.enforced.leaves) ∧
      Derivation.nested.Bracketed ∧ Derivation.enforced.Bracketed ∧
      (∀ o o', Derivation.nested.HasOperand o → Derivation.enforced.HasOperand o' →
        o.cid = o'.cid → o.bare = o'.bare) ∧
      ∀ owner owner', ∃ g g', Graph.ofText owner "(A{ffff}&B{ffff})|A{ffff}" = .ok g ∧
        Graph.ofText owner' "(A{ftff}&B{ffff})" = .ok g' ∧
        ∀ n ∈ g.nodes, ∀ n' ∈ g'.nodes, n.kind ≠ .value → n'.kind ≠ .value → n.id = n'.id →
          ∀ t, t ∈ g.children owner n.id ↔ t ∈ g'.children owner' n'.id := by
  have hleaves : Derivation.nested.leaves ++ Derivation.enforced.leaves =
      [.bare "A", .bare "B", .bare "A", ⟨"A", false, true, false, false, ""⟩, .bare "B"] := rfl
  have hids : IdsApart (Derivation.nested.leaves ++ Derivation.enforced.leaves) := by
    rw [hleaves]
    constructor
    · simp [Leaf.bare, structural?]
    · simp [Leaf.bare]
  have hnested : Derivation.nested.Bracketed := by
    unfold Derivation.Bracketed
    decide
  have henforced : Derivation.enforced.Bracketed := by
    unfold Derivation.Bracketed
    decide
  exact ⟨hids, hnested, henforced, bare_eq_and_children_eq_of_id_eq Derivation.derivesAll_nested
    Derivation.derivesAll_enforced hids hnested henforced⟩

end Requisite
