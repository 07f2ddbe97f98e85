import Requisite.Proofs.Expr.Chains
import Requisite.Proofs.Expr.Grammar

/-!
# Reading canonical ids back

A canonical id has no separators, so it can be read back only where the ids of the leaves can be
told apart: none holds a bracket or a connective, and none begins another (`IdsApart`). A chain also
has no mark at its end, so it has to stand in brackets wherever it is a member of a chain
(`Expr.Readable`). `writeId_injective` says that an id then determines the expression up to the
flags of its leaves, and `members_of_id_eq` that chains which share a node have the same members.
-/

namespace Requisite

/-- The ids of the leaves can be told apart: no bracket and no connective is in one, and none is the
beginning of another. -/
structure IdsApart (ls : List Leaf) : Prop where
  plain : ∀ l ∈ ls, ∀ c ∈ l.id.toList, structural? c = none
  prefixFree : ∀ l ∈ ls, ∀ l' ∈ ls, l.id.toList <+: l'.id.toList → l.id = l'.id

/-- Leaves that can be told apart are told apart by their ids in front of anything. -/
theorem IdsApart.eq_of_append_eq {ls : List Leaf} (h : IdsApart ls) {l l' : Leaf} (hl : l ∈ ls)
    (hl' : l' ∈ ls) {rest rest' : List Char}
    (heq : l.id.toList ++ rest = l'.id.toList ++ rest') : l.id = l'.id ∧ rest = rest' := by
  have hid : l.id = l'.id := by
    have hpre : l.id.toList <+: l'.id.toList ++ rest' := ⟨rest, heq⟩
    have hpre' : l'.id.toList <+: l'.id.toList ++ rest' := ⟨rest', rfl⟩
    rcases List.prefix_or_prefix_of_prefix hpre hpre' with hle | hle
    · exact h.prefixFree l hl l' hl' hle
    · exact (h.prefixFree l' hl' l hl hle).symm
  rw [hid] at heq
  exact ⟨hid, List.append_cancel_left heq⟩

namespace Expr

/-! ## Expressions without flags -/

/-- The expression without the flags of its leaves. -/
def bare : Expr → Expr
  | .leaf l => .leaf (.bare l.id)
  | .group content => .group content.bare
  | .chain op members => .chain op (members.map bare)

/-- Flags do not enter canonical ids. -/
theorem canonicalId_bare (e : Expr) : e.bare.canonicalId = e.canonicalId := by
  induction e with
  | leaf l => rw [bare, canonicalId_leaf, canonicalId_leaf, Leaf.bare]
  | group content ih => rw [bare, canonicalId_group, canonicalId_group, ih]
  | chain op members ih =>
    have hmembers : members.map (canonicalId ∘ bare) = members.map canonicalId :=
      List.map_congr_left ih
    rw [bare, canonicalId_chain, canonicalId_chain, List.map_map, hmembers]

/-- Flags make no chain. -/
theorem isChain_bare (e : Expr) : e.bare.isChain = e.isChain := by
  cases e <;> simp [bare, isChain]

/-- Flags do not enter the ids of nodes. -/
theorem nodeId_bare (e : Expr) : e.bare.nodeId = e.nodeId := by
  induction e with
  | leaf l => rw [bare, nodeId, nodeId, Leaf.bare]
  | group content ih =>
    rw [bare, nodeId_group, nodeId_group, isChain_bare, ih, ← canonicalId_bare (group content),
      bare]
  | chain op members ih =>
    rw [nodeId, ← canonicalId_bare, bare, nodeId]

/-! ## Expressions that can be read back -/

/-- The leaves of the expression are among `ls`, and a chain within it is in brackets where it is a
member of another one. -/
structure Readable (ls : List Leaf) (e : Expr) : Prop where
  leaves : ∀ l ∈ e.leaves, l ∈ ls
  flat : ∀ c ∈ e.chains, ∀ m ∈ c.members, m.isChain = false

/-- The chains within an expression have the same members, whatever id it is stored under. -/
theorem exists_mem_chainsAt {e : Expr} {id : String} {c : Chain} (h : c ∈ e.chainsAt id)
    (id' : String) : ∃ c' ∈ e.chainsAt id', c'.op = c.op ∧ c'.members = c.members := by
  cases e with
  | leaf l => simp [chainsAt] at h
  | group content => exact ⟨c, h, rfl, rfl⟩
  | chain op members =>
    rw [chainsAt, List.mem_cons] at h
    rcases h with rfl | h
    · exact ⟨⟨id', op, members⟩, List.mem_cons_self, rfl, rfl⟩
    · exact ⟨c, List.mem_cons_of_mem _ h, rfl, rfl⟩

variable {ls : List Leaf}

/-- With more leaves to tell apart, what can be read back still can be. -/
theorem Readable.mono {ls' : List Leaf} {e : Expr} (h : e.Readable ls) (hls : ls ⊆ ls') :
    e.Readable ls' where
  leaves l hl := hls (h.leaves l hl)
  flat := h.flat

/-- The content of brackets can be read back. -/
theorem Readable.content {content : Expr} (h : (group content).Readable ls) :
    content.Readable ls where
  leaves := h.leaves
  flat c hc := by
    obtain ⟨c', hc', -, hmembers⟩ := exists_mem_chainsAt hc (canonicalId (.group content))
    rw [← hmembers]
    exact h.flat c' hc'

/-- The members of a chain can be read back. -/
theorem Readable.member {op : Connective} {members : List Expr}
    (h : (chain op members).Readable ls) {m : Expr} (hm : m ∈ members) : m.Readable ls where
  leaves l hl := by
    refine h.leaves l ?_
    rw [Expr.leaves, leavesOf_eq]
    exact List.mem_flatMap.2 ⟨m, hm, hl⟩
  flat c hc := by
    refine h.flat c ?_
    rw [chains, chainsAt, chainsOf_eq]
    exact List.mem_cons_of_mem _ (List.mem_flatMap.2 ⟨m, hm, hc⟩)

/-- The members of a chain are no chains outside brackets. -/
theorem Readable.isChain_member {op : Connective} {members : List Expr}
    (h : (chain op members).Readable ls) {m : Expr} (hm : m ∈ members) : m.isChain = false :=
  h.flat ⟨_, op, members⟩ (by rw [chains, chainsAt]; exact List.mem_cons_self) m hm

/-- The chains within an expression that can be read back can be, too. -/
theorem Readable.of_mem_chainsAt {e : Expr} {id : String} {c : Chain} (h : e.Readable ls)
    (hc : c ∈ e.chainsAt id) : (chain c.op c.members).Readable ls := by
  induction e generalizing id with
  | leaf l => simp [chainsAt] at hc
  | group content ih => exact ih h.content hc
  | chain op members ih =>
    rw [chainsAt, List.mem_cons, chainsOf_eq, List.mem_flatMap] at hc
    rcases hc with rfl | ⟨m, hm, hc⟩
    · exact h
    · exact ih m hm (h.member hm) hc

/-- An expression that can be read back can be in brackets, too. -/
theorem Readable.group {e : Expr} (h : e.Readable ls) : (Expr.group e).Readable ls where
  leaves := h.leaves
  flat c hc := by
    have hcontent : c ∈ e.chainsAt (canonicalId (.group e)) := hc
    obtain ⟨c', hc', -, hmembers⟩ := exists_mem_chainsAt hcontent e.canonicalId
    rw [← hmembers]
    exact h.flat c' hc'

/-- The node of a chain has the canonical id of an expression that can be read back: the chain, or
the chain in brackets. -/
theorem Readable.exists_canonicalId_eq {e : Expr} (h : e.Readable ls) {c : Chain}
    (hc : c ∈ e.chains) : ∃ s : Expr, s.Readable ls ∧ s.canonicalId = c.id ∧
      (s = chain c.op c.members ∨ s = .group (chain c.op c.members)) := by
  have hchain := h.of_mem_chainsAt hc
  rcases id_of_mem_chainsAt hc (.inl rfl) with hid | hid
  · exact ⟨_, hchain, hid.symm, .inl rfl⟩
  · exact ⟨_, hchain.group, hid.symm, .inr rfl⟩

/-! ## Where an id begins and ends -/

/-- The kind of token that an expression is written with at its start, if that is no leaf. -/
def opening : Expr → Option TokenKind
  | .leaf _ => none
  | .group _ => some .leftParen
  | .chain op _ => some op.token

/-- The id of an expression begins with its opening, or with the first character of a leaf. -/
theorem exists_writeId_eq_cons (hstart : ∀ l ∈ ls, l.StartsPlain) {e : Expr} (h : e.Readable ls)
    (rest : List Char) : ∃ c cs, writeId e rest = c :: cs ∧ structural? c = e.opening := by
  cases e with
  | leaf l =>
    obtain ⟨c, cs, hid, hc⟩ := hstart l (h.leaves l (by simp [Expr.leaves]))
    exact ⟨c, cs ++ rest, by rw [writeId, hid, List.cons_append], hc⟩
  | group content => exact ⟨'(', writeId content (')' :: rest), by rw [writeId], rfl⟩
  | chain op members =>
    exact ⟨op.symbol, writeIds members rest, by rw [writeId], by cases op <;> rfl⟩

/-- Expressions that are written alike begin alike. -/
theorem opening_eq (hstart : ∀ l ∈ ls, l.StartsPlain) {e e' : Expr} (he : e.Readable ls)
    (he' : e'.Readable ls) {rest rest' : List Char} (h : writeId e rest = writeId e' rest') :
    e.opening = e'.opening := by
  obtain ⟨c, cs, hc, hopening⟩ := exists_writeId_eq_cons hstart he rest
  obtain ⟨c', cs', hc', hopening'⟩ := exists_writeId_eq_cons hstart he' rest'
  rw [hc, hc'] at h
  rw [← hopening, ← hopening', (List.cons.inj h).1]

/-- Nothing follows, or a bracket closes. -/
def Stops (rest : List Char) : Prop :=
  ∀ c ∈ rest.head?, c = ')'

/-- No expression begins where a chain stops. -/
theorem ne_writeId_of_stops (hstart : ∀ l ∈ ls, l.StartsPlain) {rest : List Char} (h : Stops rest)
    {e : Expr} (he : e.Readable ls) (rest' : List Char) : rest ≠ writeId e rest' := by
  obtain ⟨c, cs, hc, hopening⟩ := exists_writeId_eq_cons hstart he rest'
  rintro rfl
  obtain rfl : c = ')' := h c (by rw [hc]; rfl)
  cases e with
  | leaf l => simp [opening, structural?] at hopening
  | group content => simp [opening, structural?] at hopening
  | chain op members => cases op <;> simp [opening, structural?, Connective.token] at hopening

/-! ## Reading back -/

/-- The members of a chain are read back one by one, if each of them can be read back in front of
what follows it. -/
theorem writeIds_injective (hstart : ∀ l ∈ ls, l.StartsPlain) {members members' : List Expr}
    (hread : ∀ m ∈ members, ∀ m' rest rest', m'.Readable ls → writeId m rest = writeId m' rest' →
      m.bare = m'.bare ∧ rest = rest')
    (hmembers : ∀ m ∈ members, m.Readable ls) (hmembers' : ∀ m ∈ members', m.Readable ls)
    {rest rest' : List Char} (hrest : Stops rest) (hrest' : Stops rest')
    (h : writeIds members rest = writeIds members' rest') :
    members.map bare = members'.map bare ∧ rest = rest' := by
  induction members generalizing members' with
  | nil =>
    cases members' with
    | nil => exact ⟨rfl, h⟩
    | cons m' members' =>
      exact absurd h (ne_writeId_of_stops hstart hrest (hmembers' m' List.mem_cons_self) _)
  | cons m members ih =>
    cases members' with
    | nil =>
      exact absurd h.symm (ne_writeId_of_stops hstart hrest' (hmembers m List.mem_cons_self) _)
    | cons m' members' =>
      obtain ⟨hm, htail⟩ := hread m List.mem_cons_self m' _ _ (hmembers' m' List.mem_cons_self) h
      obtain ⟨hmap, hrest⟩ := ih (fun n hn => hread n (List.mem_cons_of_mem _ hn))
        (fun n hn => hmembers n (List.mem_cons_of_mem _ hn))
        (fun n hn => hmembers' n (List.mem_cons_of_mem _ hn)) htail
      exact ⟨by rw [List.map_cons, List.map_cons, hm, hmap], hrest⟩

/-- An id determines the expression up to flags, and what follows it. Only a chain has to be
followed by a bracket, or by nothing: the other ids say themselves where they end. -/
theorem writeId_injective (hls : IdsApart ls) (hstart : ∀ l ∈ ls, l.StartsPlain) {e e' : Expr}
    (he : e.Readable ls) (he' : e'.Readable ls) {rest rest' : List Char}
    (hstop : e.isChain = true → Stops rest ∧ Stops rest')
    (h : writeId e rest = writeId e' rest') : e.bare = e'.bare ∧ rest = rest' := by
  -- The ids begin alike, which leaves only expressions of one shape to compare.
  have hopening := opening_eq hstart he he' h
  induction e generalizing e' rest rest' with
  | leaf l =>
    cases e' with
    | leaf l' =>
      have hl : l ∈ ls := he.leaves l (by simp [Expr.leaves])
      have hl' : l' ∈ ls := he'.leaves l' (by simp [Expr.leaves])
      obtain ⟨hid, hrest⟩ := hls.eq_of_append_eq hl hl' (by simpa [writeId] using h)
      exact ⟨by rw [bare, bare, hid], hrest⟩
    | group content' => simp [opening] at hopening
    | chain op' members' => simp [opening] at hopening
  | group content ih =>
    cases e' with
    | leaf l' => simp [opening] at hopening
    | group content' =>
      -- The content ends at the closing bracket, even if it is a chain.
      have hcontent : writeId content (')' :: rest) = writeId content' (')' :: rest') := by
        simpa [writeId] using h
      have hends : Stops (')' :: rest) ∧ Stops (')' :: rest') := by simp [Stops]
      obtain ⟨hbare, hrest⟩ := ih he.content he'.content (fun _ => hends) hcontent
        (opening_eq hstart he.content he'.content hcontent)
      exact ⟨by rw [bare, bare, hbare], (List.cons.inj hrest).2⟩
    | chain op' members' => cases op' <;> simp [opening, Connective.token] at hopening
  | chain op members ih =>
    cases e' with
    | leaf l' => simp [opening] at hopening
    | group content' => cases op <;> simp [opening, Connective.token] at hopening
    | chain op' members' =>
      obtain ⟨hrest, hrest'⟩ := hstop rfl
      obtain ⟨hsymbol, hmembers⟩ : op.symbol = op'.symbol ∧
          writeIds members rest = writeIds members' rest' := by simpa [writeId] using h
      have hop : op = op' := by cases op <;> cases op' <;> simp_all [Connective.symbol]
      have hread : ∀ m ∈ members, ∀ m' rest rest', m'.Readable ls →
          writeId m rest = writeId m' rest' → m.bare = m'.bare ∧ rest = rest' := by
        intro m hm m' rest rest' hm' heq
        refine ih m hm (he.member hm) hm' (fun hchain => ?_) heq
          (opening_eq hstart (he.member hm) hm' heq)
        rw [he.isChain_member hm] at hchain
        contradiction
      obtain ⟨hmap, hrest⟩ := writeIds_injective hstart hread (fun m hm => he.member hm)
        (fun m hm => he'.member hm) hrest hrest' hmembers
      exact ⟨by rw [bare, bare, hop, hmap], hrest⟩

/-- Expressions with one canonical id are the same up to flags. -/
theorem bare_eq_of_canonicalId_eq (hls : IdsApart ls) (hstart : ∀ l ∈ ls, l.StartsPlain)
    {e e' : Expr} (he : e.Readable ls) (he' : e'.Readable ls)
    (h : e.canonicalId = e'.canonicalId) : e.bare = e'.bare := by
  have hwrite : writeId e [] = writeId e' [] := by
    rw [← toList_canonicalId, ← toList_canonicalId, h]
  exact (writeId_injective hls hstart he he' (fun _ => by simp [Stops]) hwrite).1

/-- Chains with one node have one connective and, up to flags, the same members. -/
theorem members_of_id_eq (hls : IdsApart ls) (hstart : ∀ l ∈ ls, l.StartsPlain) {e e' : Expr}
    (he : e.Readable ls) (he' : e'.Readable ls) {c c' : Chain} (hc : c ∈ e.chains)
    (hc' : c' ∈ e'.chains) (h : c.id = c'.id) :
    c.op = c'.op ∧ c.members.map bare = c'.members.map bare := by
  obtain ⟨s, hs, hid, hchain⟩ := he.exists_canonicalId_eq hc
  obtain ⟨s', hs', hid', hchain'⟩ := he'.exists_canonicalId_eq hc'
  have hbare : s.bare = s'.bare :=
    bare_eq_of_canonicalId_eq hls hstart hs hs' (by rw [hid, hid', h])
  rcases hchain with rfl | rfl
  · rcases hchain' with rfl | rfl
    · simpa [bare] using hbare
    · simp [bare] at hbare
  · rcases hchain' with rfl | rfl
    · simp [bare] at hbare
    · simpa [bare] using hbare

end Expr

end Requisite
