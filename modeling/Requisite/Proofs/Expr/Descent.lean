import Requisite.Expr.Graph
import Requisite.Proofs.Expr.Grammar
import Requisite.Proofs.Outcome

/-!
# The parser follows the grammar

`Nonterminal.read` is one view of the five mutual functions of the parser, and `read_induct` is
induction along their calls. What a production reads is what its nonterminal derives
(`derives_of_read`), and what a nonterminal derives is read, before a token with which it cannot go
on (`read_of_derives`). Together they give `ofTokens_eq_ok_iff`: the parser accepts exactly the
tokens that the grammar derives.
-/

namespace Requisite

open Requisite.Expr (join)

namespace Nonterminal

/-- What the parser reads of `ts` for a nonterminal: the expressions, and the tokens that remain. -/
def read (stop : Token) : Nonterminal → List Token → Except ExprFault (List Expr × List Token)
  | .chain .or, ts => (Expr.expression stop ts).map fun p => ([p.1], p.2.1)
  | .chain .and, ts => (Expr.term stop ts).map fun p => ([p.1], p.2.1)
  | .further .or, ts => (Expr.terms stop ts).map fun p => (p.1, p.2.1)
  | .further .and, ts => (Expr.factors stop ts).map fun p => (p.1, p.2.1)
  | .factor, ts => (Expr.factor stop ts).map fun p => ([p.1], p.2.1)

variable {stop : Token}

/-! ## The productions -/

/-- A chain is read as its first member and then the further ones. -/
theorem read_chain (op : Connective) (ts : List Token) :
    read stop (.chain op) ts =
      (read stop (member op) ts).bind fun first =>
        (read stop (.further op) first.2).bind fun others =>
          .ok (first.1.map (join op · others.1), others.2) := by
  cases op with
  | or =>
    simp only [read, member]
    rw [Expr.expression]
    cases Expr.term stop ts with
    | error f => rfl
    | ok first =>
      obtain ⟨head, mid, hmid⟩ := first
      cases hterms : Expr.terms stop mid with
      | error f => simp [bind, Except.bind, Except.map, hterms]
      | ok others => simp [bind, Except.bind, Except.map, hterms, Expr.combine_cons]
  | and =>
    simp only [read, member]
    rw [Expr.term]
    cases Expr.factor stop ts with
    | error f => rfl
    | ok first =>
      obtain ⟨head, mid, hmid⟩ := first
      cases hfactors : Expr.factors stop mid with
      | error f => simp [bind, Except.bind, Except.map, hfactors]
      | ok others => simp [bind, Except.bind, Except.map, hfactors, Expr.combine_cons]

/-- There are no further members at the end of the tokens. -/
theorem read_further_nil (op : Connective) : read stop (.further op) [] = .ok ([], []) := by
  cases op with
  | or => rw [read, Expr.terms]; rfl
  | and => rw [read, Expr.factors]; rfl

/-- There are no further members before a token that is not the connective. -/
theorem read_further_of_ne {op : Connective} {t : Token} (ts : List Token)
    (ht : t.kind ≠ op.token) : read stop (.further op) (t :: ts) = .ok ([], t :: ts) := by
  cases op with
  | or => rw [read, Expr.terms, if_neg (by exact ht)]; rfl
  | and => rw [read, Expr.factors, if_neg (by exact ht)]; rfl

/-- After the connective there is a member, and then the further ones. -/
theorem read_further_of_eq {op : Connective} {t : Token} (ts : List Token)
    (ht : t.kind = op.token) :
    read stop (.further op) (t :: ts) =
      (read stop (member op) ts).bind fun first =>
        (read stop (.further op) first.2).bind fun others =>
          .ok (first.1 ++ others.1, others.2) := by
  cases op with
  | or =>
    simp only [read, member]
    rw [Expr.terms, if_pos (by exact ht)]
    cases Expr.term stop ts with
    | error f => rfl
    | ok first =>
      obtain ⟨head, mid, hmid⟩ := first
      cases hterms : Expr.terms stop mid with
      | error f => simp [bind, Except.bind, Except.map, hterms]
      | ok others => simp [bind, Except.bind, Except.map, hterms]
  | and =>
    simp only [read, member]
    rw [Expr.factors, if_pos (by exact ht)]
    cases Expr.factor stop ts with
    | error f => rfl
    | ok first =>
      obtain ⟨head, mid, hmid⟩ := first
      cases hfactors : Expr.factors stop mid with
      | error f => simp [bind, Except.bind, Except.map, hfactors]
      | ok others => simp [bind, Except.bind, Except.map, hfactors]

/-- A factor is missing at the end of the tokens. -/
theorem read_factor_nil :
    read stop .factor [] = .error (.unexpectedToken [.requisite, .leftParen] stop) := by
  rw [read, Expr.factor]
  rfl

/-- A requisite is read as the leaf that it writes. -/
theorem read_factor_requisite {t : Token} (ts : List Token) (ht : t.kind = .requisite) :
    read stop .factor (t :: ts) =
      match Leaf.decode t.value with
      | .ok l => .ok ([.leaf l], ts)
      | .error fault => .error (.malformedLeaf t.value fault) := by
  rw [read, Expr.factor]
  simp only [ht]
  cases Leaf.decode t.value <;> rfl

/-- The closing bracket that a group needs, and the tokens after it. -/
def afterBracket (stop : Token) : List Token → Except ExprFault (List Token)
  | [] => .error (.unexpectedToken [.rightParen] stop)
  | t :: ts => if t.kind = .rightParen then .ok ts else .error (.unexpectedToken [.rightParen] t)

/-- After the closing bracket stands what follows it. -/
theorem afterBracket_eq_ok {ts rest : List Token} :
    afterBracket stop ts = .ok rest ↔ ∃ t, ts = t :: rest ∧ t.kind = .rightParen := by
  cases ts with
  | nil => simp [afterBracket]
  | cons t ts =>
    by_cases ht : t.kind = .rightParen
    · simp only [afterBracket, if_pos ht, Except.ok.injEq]
      constructor
      · rintro rfl
        exact ⟨t, rfl, ht⟩
      · rintro ⟨u, h, -⟩
        exact (List.cons.inj h).2
    · simp only [afterBracket, if_neg ht, reduceCtorEq, false_iff]
      rintro ⟨u, h, hu⟩
      rw [(List.cons.inj h).1] at ht
      exact ht hu

/-- After an opening bracket there is an expression, and then a closing bracket. -/
theorem read_factor_leftParen {t : Token} (ts : List Token) (ht : t.kind = .leftParen) :
    read stop .factor (t :: ts) =
      (read stop expression ts).bind fun content =>
        (afterBracket stop content.2).bind fun rest => .ok (content.1.map .group, rest) := by
  simp only [read, Expr.factor, ht]
  cases Expr.expression stop ts with
  | error f => rfl
  | ok content =>
    obtain ⟨e, mid, hmid⟩ := content
    cases mid with
    | nil => rfl
    | cons u us =>
      by_cases hu : u.kind = .rightParen
      · simp [bind, Except.bind, Except.map, Expr.closeGroup, afterBracket, hu]
      · simp [bind, Except.bind, Except.map, Expr.closeGroup, afterBracket, hu]

/-- No factor begins with any other token. -/
theorem read_factor_other {t : Token} (ts : List Token) (hreq : t.kind ≠ .requisite)
    (hopen : t.kind ≠ .leftParen) :
    read stop .factor (t :: ts) = .error (.unexpectedToken [.requisite, .leftParen] t) := by
  rw [read, Expr.factor]
  split
  · exact absurd ‹_› hreq
  · exact absurd ‹_› hopen
  · rfl

/-! ## Induction along the calls -/

/-- A member is one expression, and reading it uses up a token. -/
theorem read_member_eq_ok {op : Connective} {ts mid : List Token} {heads : List Expr}
    (h : read stop (member op) ts = .ok (heads, mid)) :
    (∃ head, heads = [head]) ∧ mid.length < ts.length := by
  cases op with
  | or =>
    obtain ⟨⟨head, rest, hrest⟩, -, hp⟩ := map_eq_ok.1 h
    obtain ⟨rfl, rfl⟩ := by simpa using hp
    exact ⟨⟨head, rfl⟩, hrest⟩
  | and =>
    obtain ⟨⟨head, rest, hrest⟩, -, hp⟩ := map_eq_ok.1 h
    obtain ⟨rfl, rfl⟩ := by simpa using hp
    exact ⟨⟨head, rfl⟩, hrest⟩

/-- An expression is one tree. -/
theorem read_expression_eq_ok {ts mid : List Token} {contents : List Expr}
    (h : read stop expression ts = .ok (contents, mid)) : ∃ content, contents = [content] := by
  obtain ⟨⟨content, rest⟩, -, hp⟩ := map_eq_ok.1 h
  exact ⟨content, by simpa [eq_comm] using congrArg Prod.fst hp⟩

/-- To prove a property of the parser at every nonterminal and tokens, prove it from the property
at the calls that it makes there. -/
theorem read_induct (stop : Token) {motive : Nonterminal → List Token → Prop}
    (chain : ∀ op ts, motive (member op) ts →
      (∀ heads mid, read stop (member op) ts = .ok (heads, mid) → motive (.further op) mid) →
      motive (.chain op) ts)
    (further_nil : ∀ op, motive (.further op) [])
    (further_stop : ∀ op t ts, t.kind ≠ op.token → motive (.further op) (t :: ts))
    (further_more : ∀ op t ts, t.kind = op.token → motive (member op) ts →
      (∀ heads mid, read stop (member op) ts = .ok (heads, mid) → motive (.further op) mid) →
      motive (.further op) (t :: ts))
    (factor_nil : motive .factor [])
    (factor_requisite : ∀ t ts, t.kind = .requisite → motive .factor (t :: ts))
    (factor_group : ∀ t ts, t.kind = .leftParen → motive expression ts → motive .factor (t :: ts))
    (factor_other : ∀ t ts, t.kind ≠ .requisite → t.kind ≠ .leftParen → motive .factor (t :: ts))
    (n : Nonterminal) (ts : List Token) : motive n ts := by
  have hchain : ∀ op ts, motive (member op) ts →
      (∀ mid : List Token, mid.length < ts.length → motive (.further op) mid) →
      motive (.chain op) ts := fun op ts hfirst hmid =>
    chain op ts hfirst fun _ mid h => hmid mid (read_member_eq_ok h).2
  have hmore : ∀ op t ts, t.kind = op.token → motive (member op) ts →
      (∀ mid : List Token, mid.length < ts.length → motive (.further op) mid) →
      motive (.further op) (t :: ts) := fun op t ts ht hfirst hmid =>
    further_more op t ts ht hfirst fun _ mid h => hmid mid (read_member_eq_ok h).2
  obtain ⟨hexpression, hterms, hterm, hfactors, hfactor⟩ :=
    Expr.expression.mutual_induct (motive expression) (motive (.further .or)) (motive term)
      (motive (.further .and)) (motive .factor) (hchain .or) (further_nil .or) (hmore .or)
      (further_stop .or) (hchain .and) (further_nil .and) (hmore .and) (further_stop .and)
      factor_nil (fun t ts hk _ _ => factor_requisite t ts hk)
      (fun t ts hk _ _ => factor_requisite t ts hk) factor_group factor_other
  cases n with
  | chain op => cases op with
    | or => exact hexpression ts
    | and => exact hterm ts
  | further op => cases op with
    | or => exact hterms ts
    | and => exact hfactors ts
  | factor => exact hfactor ts

/-! ## What is read is derived -/

/-- What is read of `ts` for `n` is derived by the tokens that it uses up. -/
def ReadDerived (stop : Token) (n : Nonterminal) (ts : List Token) : Prop :=
  ∀ es rest, read stop n ts = .ok (es, rest) →
    ∃ used ds, ts = used ++ rest ∧ Derives n used ds ∧ ds.map Derivation.toExpr = es

/-- A member and the further ones after it are derived, whatever is made of them. -/
theorem derives_of_read_members {op : Connective} {ts : List Token}
    {make : List Expr × List Token → List Expr × List Token → List Expr × List Token}
    {p : List Expr × List Token} (ihfirst : ReadDerived stop (member op) ts)
    (ihothers : ∀ heads mid, read stop (member op) ts = .ok (heads, mid) →
      ReadDerived stop (.further op) mid)
    (h : ((read stop (member op) ts).bind fun first =>
      (read stop (.further op) first.2).bind fun others => .ok (make first others)) = .ok p) :
    ∃ us vs rest head tail, ts = us ++ (vs ++ rest) ∧ Derives (member op) us [head] ∧
      Derives (.further op) vs tail ∧
      p = make ([head.toExpr], vs ++ rest) (tail.map Derivation.toExpr, rest) := by
  obtain ⟨⟨heads, mid⟩, hfirst, h⟩ := bind_eq_ok.1 h
  obtain ⟨⟨others, rest⟩, hothers, h⟩ := bind_eq_ok.1 h
  obtain ⟨⟨head, rfl⟩, -⟩ := read_member_eq_ok hfirst
  obtain ⟨us, heads, rfl, hus, hheads⟩ := ihfirst _ _ hfirst
  obtain ⟨vs, tail, rfl, hvs, rfl⟩ := ihothers _ _ hfirst _ _ hothers
  obtain ⟨d, rfl, rfl⟩ := List.map_eq_singleton_iff.1 hheads
  exact ⟨us, vs, rest, d, tail, rfl, hus, hvs, (Except.ok.inj h).symm⟩

/-- What is read is derived. -/
theorem derives_of_read (n : Nonterminal) (ts : List Token) : ReadDerived stop n ts := by
  induction n, ts using read_induct stop with
  | chain op ts ihfirst ihothers =>
    intro es rest h
    rw [read_chain] at h
    obtain ⟨us, vs, rest, head, tail, rfl, hus, hvs, hp⟩ :=
      derives_of_read_members ihfirst ihothers h
    obtain ⟨rfl, rfl⟩ := Prod.mk.inj hp
    exact ⟨us ++ vs, [.chain op head tail], by rw [List.append_assoc], .chain hus hvs,
      by simp [Derivation.toExpr]⟩
  | further_nil op =>
    intro es rest h
    rw [read_further_nil] at h
    obtain ⟨rfl, rfl⟩ := by simpa using h
    exact ⟨[], [], rfl, .none, rfl⟩
  | further_stop op t ts ht =>
    intro es rest h
    rw [read_further_of_ne ts ht] at h
    obtain ⟨rfl, rfl⟩ := by simpa using h
    exact ⟨[], [], rfl, .none, rfl⟩
  | further_more op t ts ht ihfirst ihothers =>
    intro es rest h
    rw [read_further_of_eq ts ht] at h
    obtain ⟨us, vs, rest, head, tail, rfl, hus, hvs, hp⟩ :=
      derives_of_read_members ihfirst ihothers h
    obtain ⟨rfl, rfl⟩ := Prod.mk.inj hp
    exact ⟨t :: (us ++ vs), head :: tail, by simp, .more ht hus hvs, by simp⟩
  | factor_nil =>
    intro es rest h
    simp [read_factor_nil] at h
  | factor_requisite t ts ht =>
    intro es rest h
    rw [read_factor_requisite ts ht] at h
    cases hdecode : Leaf.decode t.value with
    | error fault => simp [hdecode] at h
    | ok l =>
      obtain ⟨rfl, rfl⟩ := by simpa [hdecode] using h
      exact ⟨[t], [.leaf l], rfl, .leaf ht hdecode, by simp [Derivation.toExpr]⟩
  | factor_group t ts ht ih =>
    intro es rest h
    rw [read_factor_leftParen ts ht, bind_eq_ok] at h
    obtain ⟨⟨contents, mid⟩, hinner, h⟩ := h
    obtain ⟨rest', hafter, h⟩ := bind_eq_ok.1 h
    obtain ⟨rfl, rfl⟩ := by simpa using h
    obtain ⟨content, rfl⟩ := read_expression_eq_ok hinner
    obtain ⟨us, ds, rfl, hinner', hds⟩ := ih _ _ hinner
    obtain ⟨d, rfl, rfl⟩ := List.map_eq_singleton_iff.1 hds
    obtain ⟨u, rfl, hu⟩ := afterBracket_eq_ok.1 hafter
    exact ⟨t :: (us ++ [u]), [.group d], by simp, .group ht hinner' hu,
      by simp [Derivation.toExpr]⟩
  | factor_other t ts hreq hopen =>
    intro es rest h
    simp [read_factor_other ts hreq hopen] at h

/-! ## What is derived is read -/

/-- The kinds of token with which a nonterminal goes on, where one of them follows. -/
def goesOn : Nonterminal → List TokenKind
  | .chain .or | .further .or => [.or, .and]
  | .chain .and | .further .and => [.and]
  | .factor => []

/-- The tokens `rest` cannot go on what the nonterminal derives. -/
def Ends (n : Nonterminal) (rest : List Token) : Prop :=
  ∀ t ∈ rest.head?, t.kind ∉ n.goesOn

/-- Further members end where the chain of them does. -/
theorem ends_chain {op : Connective} {rest : List Token} :
    Ends (.chain op) rest ↔ Ends (.further op) rest := by
  cases op <;> rfl

/-- Further members go on with the connective, or as a member does. -/
theorem goesOn_further (op : Connective) :
    goesOn (.further op) = op.token :: goesOn (member op) := by
  cases op <;> rfl

/-- At the end of the tokens every nonterminal ends. -/
theorem ends_nil (n : Nonterminal) : n.Ends [] := by
  simp [Ends]

/-- A member ends before the further members of its chain. -/
theorem ends_member_append {op : Connective} {us rest : List Token} {ds : List Derivation}
    (h : Derives (.further op) us ds) (hrest : Ends (.further op) rest) :
    Ends (member op) (us ++ rest) := by
  cases h with
  | none =>
    intro t ht hmem
    exact hrest t ht (by rw [goesOn_further]; exact List.mem_cons_of_mem _ hmem)
  | more sign first others =>
    intro t ht
    obtain rfl : _ = t := by simpa using ht
    rw [sign]
    cases op <;> simp [goesOn, member, Connective.token]

/-- What a nonterminal derives is read, wherever it ends. -/
theorem read_of_derives (stop : Token) {n : Nonterminal} {used : List Token} {ds : List Derivation}
    (h : Derives n used ds) : ∀ rest, n.Ends rest →
      read stop n (used ++ rest) = .ok (ds.map Derivation.toExpr, rest) := by
  induction h with
  | @chain op ts us head tail first others ihfirst ihothers =>
    intro rest hrest
    rw [ends_chain] at hrest
    rw [List.append_assoc, read_chain, ihfirst _ (ends_member_append others hrest)]
    simp only [Except.bind, ihothers rest hrest]
    simp [Derivation.toExpr]
  | @none op =>
    intro rest hrest
    cases rest with
    | nil => exact read_further_nil op
    | cons t rest =>
      have ht : t.kind ≠ op.token := fun h =>
        hrest t rfl (by rw [goesOn_further, h]; exact List.mem_cons_self)
      exact read_further_of_ne rest ht
  | @more op t ts us head tail sign first others ihfirst ihothers =>
    intro rest hrest
    rw [List.cons_append, List.append_assoc, read_further_of_eq _ sign,
      ihfirst _ (ends_member_append others hrest)]
    simp only [Except.bind, ihothers rest hrest]
    simp
  | @leaf t l kind decode =>
    intro rest _
    rw [List.singleton_append, read_factor_requisite rest kind, decode]
    simp [Derivation.toExpr]
  | @group t u ts content opening inner closing ih =>
    intro rest _
    have hend : Ends expression (u :: rest) := by
      intro v hv
      obtain rfl : u = v := by simpa using hv
      simp [goesOn, closing]
    rw [List.cons_append, List.append_assoc, read_factor_leftParen _ opening,
      List.singleton_append, ih _ hend]
    simp [Except.bind, afterBracket, closing, Derivation.toExpr]

/-! ## Where reading stops -/

/-- A production stops only where its nonterminal ends. The further members of a chain are asked for
after a member, where that one has ended. -/
theorem ends_of_read (n : Nonterminal) (ts : List Token) :
    ∀ es rest, read stop n ts = .ok (es, rest) → (∀ op, n = .further op → Ends (member op) ts) →
      n.Ends rest := by
  have hmember : ∀ op op', member op ≠ .further op' := by
    intro op op'
    cases op <;> simp [member]
  induction n, ts using read_induct stop with
  | chain op ts ihfirst ihothers =>
    intro es rest h _
    rw [read_chain, bind_eq_ok] at h
    obtain ⟨⟨heads, mid⟩, hfirst, h⟩ := h
    obtain ⟨⟨tail, rest'⟩, hothers, h⟩ := bind_eq_ok.1 h
    obtain ⟨-, rfl⟩ := by simpa using h
    have hmid : Ends (member op) mid :=
      ihfirst _ _ hfirst fun op' h => absurd h (hmember op op')
    rw [ends_chain]
    exact ihothers _ _ hfirst _ _ hothers fun op' h => Nonterminal.further.inj h ▸ hmid
  | further_nil op =>
    intro es rest h _
    rw [read_further_nil] at h
    obtain ⟨-, rfl⟩ := by simpa using h
    exact ends_nil _
  | further_stop op t ts ht =>
    intro es rest h hends
    rw [read_further_of_ne ts ht] at h
    obtain ⟨-, rfl⟩ := by simpa using h
    intro u hu
    obtain rfl : t = u := by simpa using hu
    rw [goesOn_further, List.mem_cons, not_or]
    exact ⟨ht, hends op rfl t rfl⟩
  | further_more op t ts ht ihfirst ihothers =>
    intro es rest h _
    rw [read_further_of_eq ts ht, bind_eq_ok] at h
    obtain ⟨⟨heads, mid⟩, hfirst, h⟩ := h
    obtain ⟨⟨tail, rest'⟩, hothers, h⟩ := bind_eq_ok.1 h
    obtain ⟨-, rfl⟩ := by simpa using h
    have hmid : Ends (member op) mid :=
      ihfirst _ _ hfirst fun op' h => absurd h (hmember op op')
    exact ihothers _ _ hfirst _ _ hothers fun op' h => Nonterminal.further.inj h ▸ hmid
  | factor_nil => exact fun _ _ _ _ _ _ => List.not_mem_nil
  | factor_requisite t ts ht => exact fun _ _ _ _ _ _ => List.not_mem_nil
  | factor_group t ts ht ih => exact fun _ _ _ _ _ _ => List.not_mem_nil
  | factor_other t ts hreq hopen => exact fun _ _ _ _ _ _ => List.not_mem_nil

end Nonterminal

namespace Expr

/-- The tokens are an expression exactly when they are read as one, and none remains. -/
theorem ofTokens_eq_ok {stop : Token} {ts : List Token} {e : Expr} :
    ofTokens stop ts = .ok e ↔ Nonterminal.read stop .expression ts = .ok ([e], []) := by
  rw [ofTokens, Nonterminal.read]
  cases Expr.expression stop ts with
  | error f => simp [bind, Except.bind, Except.map]
  | ok p =>
    obtain ⟨e', rest, hrest⟩ := p
    cases rest <;> simp [bind, Except.bind, Except.map]

/-- The tokens are refused exactly when no expression is read, or when a token remains. -/
theorem ofTokens_eq_error {stop : Token} {ts : List Token} {f : ExprFault} :
    ofTokens stop ts = .error f ↔ Nonterminal.read stop .expression ts = .error f ∨
      ∃ es t rest, Nonterminal.read stop .expression ts = .ok (es, t :: rest) ∧
        f = .unconsumedInput t := by
  rw [ofTokens, Nonterminal.read]
  cases Expr.expression stop ts with
  | error f => simp [bind, Except.bind, Except.map]
  | ok p =>
    obtain ⟨e', rest, hrest⟩ := p
    cases rest with
    | nil => simp [bind, Except.bind, Except.map]
    | cons t rest =>
      simp only [bind, Except.bind, Except.map, Except.error.injEq, reduceCtorEq, false_or,
        Except.ok.injEq, Prod.mk.injEq, List.cons.injEq]
      constructor
      · rintro rfl
        exact ⟨_, t, rest, ⟨rfl, rfl, rfl⟩, rfl⟩
      · rintro ⟨_, u, _, ⟨-, rfl, -⟩, rfl⟩
        rfl

/-- The parser accepts exactly the tokens that the grammar derives, with the expression of their
derivation tree. -/
theorem ofTokens_eq_ok_iff {stop : Token} {ts : List Token} {e : Expr} :
    ofTokens stop ts = .ok e ↔ ∃ d, Derives .expression ts [d] ∧ d.toExpr = e := by
  rw [ofTokens_eq_ok]
  constructor
  · intro h
    obtain ⟨used, ds, hts, hd, hds⟩ := Nonterminal.derives_of_read _ _ _ _ h
    obtain ⟨d, rfl, rfl⟩ := List.map_eq_singleton_iff.1 hds
    rw [List.append_nil] at hts
    exact ⟨d, hts ▸ hd, rfl⟩
  · rintro ⟨d, hd, rfl⟩
    simpa using Nonterminal.read_of_derives stop hd [] (Nonterminal.ends_nil _)

end Expr

/-- No tokens are no expression. -/
theorem Derives.ne_nil {ts : List Token} {d : Derivation} (h : Derives .expression ts [d]) :
    ts ≠ [] := by
  rintro rfl
  -- Whatever token stands for the end of the text, the parser misses a factor there.
  have hread := Nonterminal.read_of_derives (stopToken "") h [] (Nonterminal.ends_nil _)
  simp [Nonterminal.read_chain, Nonterminal.member, Nonterminal.read_factor_nil, Except.bind]
    at hread

/-! ## The grammar is unambiguous

The parser has one answer, so two derivations of the same tokens have one expression. What is left
is that the chains of one member, which the expression leaves out, are determined by it. -/

namespace Derives

/-- A member of a chain is no chain of the same connective, unless it is in brackets. -/
theorem toExpr_ne_chain {op : Connective} {ts : List Token} {d : Derivation}
    (h : Derives (.member op) ts [d]) (members : List Expr) : d.toExpr ≠ .chain op members := by
  have hfactor {ts : List Token} {d : Derivation} (h : Derives .factor ts [d]) (op : Connective)
      (members : List Expr) : d.toExpr ≠ .chain op members := by
    cases h with
    | leaf kind decode => simp [Derivation.toExpr]
    | group opening inner closing => simp [Derivation.toExpr]
  cases op with
  | and => exact hfactor h .and members
  | or =>
    cases h with
    | @chain _ _ _ _ tail first others =>
      cases tail with
      | nil => exact hfactor first .or members
      | cons m tail => simp [Derivation.toExpr, Expr.join]

/-- Trees of one nonterminal that have the same expressions are the same. -/
theorem eq_of_map_toExpr_eq {n : Nonterminal} {ts us : List Token} {ds ds' : List Derivation}
    (h : Derives n ts ds) (h' : Derives n us ds')
    (heq : ds.map Derivation.toExpr = ds'.map Derivation.toExpr) : ds = ds' := by
  induction h generalizing us ds' with
  | @chain op _ _ head tail first others ihfirst ihothers =>
    cases h' with
    | @chain _ _ _ head' tail' first' others' =>
      have hjoin : Expr.join op head.toExpr (tail.map Derivation.toExpr) =
          Expr.join op head'.toExpr (tail'.map Derivation.toExpr) := by
        simpa [Derivation.toExpr] using heq
      cases tail with
      | nil =>
        cases tail' with
        | nil =>
          obtain ⟨rfl⟩ := by simpa using ihfirst first' (by simpa [Expr.join] using hjoin)
          rfl
        | cons m' tail' => exact absurd hjoin (first.toExpr_ne_chain _)
      | cons m tail =>
        cases tail' with
        | nil => exact absurd hjoin.symm (first'.toExpr_ne_chain _)
        | cons m' tail' =>
          obtain ⟨hhead, hm, htail⟩ := by simpa [Expr.join] using hjoin
          obtain ⟨rfl⟩ := by simpa using ihfirst first' (by simpa using hhead)
          obtain ⟨rfl, rfl⟩ := by simpa using ihothers others' (by simp [hm, htail])
          rfl
  | none =>
    cases h' with
    | none => rfl
    | more sign first others => simp at heq
  | more sign first others ihfirst ihothers =>
    cases h' with
    | none => simp at heq
    | more sign' first' others' =>
      obtain ⟨hhead, htail⟩ := by simpa using heq
      obtain ⟨rfl⟩ := by simpa using ihfirst first' (by simpa using hhead)
      rw [ihothers others' htail]
  | leaf kind decode =>
    cases h' with
    | leaf kind' decode' => simpa [Derivation.toExpr] using heq
    | group opening inner closing => simp [Derivation.toExpr] at heq
  | group opening inner closing ih =>
    cases h' with
    | leaf kind decode => simp [Derivation.toExpr] at heq
    | group opening' inner' closing' =>
      obtain ⟨rfl⟩ := by simpa using ih inner' (by simpa [Derivation.toExpr] using heq)
      rfl

/-- Tokens have one derivation. -/
theorem unique {n : Nonterminal} {ts : List Token} {ds ds' : List Derivation} (h : Derives n ts ds)
    (h' : Derives n ts ds') : ds = ds' := by
  have hread := Nonterminal.read_of_derives (stopToken "") h [] (Nonterminal.ends_nil n)
  rw [Nonterminal.read_of_derives (stopToken "") h' [] (Nonterminal.ends_nil n)] at hread
  obtain ⟨heq, -⟩ := Prod.mk.inj (Except.ok.inj hread)
  exact h.eq_of_map_toExpr_eq h' heq.symm

end Derives

/-- A text that is not empty has a graph exactly when its tokens are derived, and the graph is that
of their derivation tree. -/
theorem Graph.ofText_eq_ok_iff {owner expression : String} {g : Graph} (h : expression ≠ "") :
    Graph.ofText owner expression = .ok g ↔
      ∃ d, Derives .expression (tokens expression) [d] ∧ d.toExpr.graph owner = g := by
  rw [Graph.ofText, if_neg (by simpa using h), map_eq_ok]
  simp only [Expr.parse, Expr.ofTokens_eq_ok_iff]
  constructor
  · rintro ⟨e, ⟨d, hd, rfl⟩, rfl⟩
    exact ⟨d, hd, rfl⟩
  · rintro ⟨d, hd, rfl⟩
    exact ⟨d.toExpr, ⟨d, hd, rfl⟩, rfl⟩

/-- A text whose tokens are derived has the graph of their derivation tree. -/
theorem Derives.ofText_eq_ok {text : String} {d : Derivation}
    (h : Derives .expression (tokens text) [d]) (owner : String) :
    Graph.ofText owner text = .ok (d.toExpr.graph owner) := by
  have hne : text ≠ "" := by
    rintro rfl
    exact h.ne_nil rfl
  exact (Graph.ofText_eq_ok_iff hne).2 ⟨d, h, rfl⟩

/-- The graph of an accepted text is empty, and so are the tokens, or it is that of their derivation
tree. -/
theorem Graph.eq_empty_or_exists_derives {owner expression : String} {g : Graph}
    (h : Graph.ofText owner expression = .ok g) :
    tokens expression = [] ∧ g = {} ∨
      ∃ d, Derives .expression (tokens expression) [d] ∧ d.toExpr.graph owner = g := by
  by_cases hne : expression = ""
  · subst hne
    exact .inl ⟨rfl, (Except.ok.inj h).symm⟩
  · exact .inr ((ofText_eq_ok_iff hne).1 h)

/-- A text of one token, which is a leaf, has the graph of that leaf. -/
theorem Graph.ofText_of_leaf {owner text : String} {t : Token} {l : Leaf} (h : text ≠ "")
    (htokens : tokens text = [t]) (kind : t.kind = .requisite)
    (decode : Leaf.decode t.value = .ok l) :
    Graph.ofText owner text = .ok (Expr.graph owner (.leaf l)) := by
  have hderives : Derives .expression (tokens text) [.chain .or (.chain .and (.leaf l) []) []] :=
    htokens ▸ Derives.ofFactor (.leaf kind decode)
  exact (ofText_eq_ok_iff h).2 ⟨_, hderives, rfl⟩

end Requisite
