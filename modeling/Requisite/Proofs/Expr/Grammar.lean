import Requisite.Expr.Parser

/-!
# The grammar of expressions

The grammar that the parser follows, as a relation between tokens and derivation trees:

    start      := expression stop
    expression := term terms          terms   := | or term terms
    term       := factor factors      factors := | and factor factors
    factor     := requisite | leftParen expression rightParen

An expression and a term are one shape, a chain of members under a connective, so each of the two
productions of a chain is stated once for both connectives. The relation knows nothing of the order
in which a parser looks at tokens: `Derives` joins what its parts derive.
-/

namespace Requisite

/-- The kind of token that writes a connective. -/
def Connective.token : Connective → TokenKind
  | .and => .and
  | .or => .or

/-- A derivation tree. Unlike an `Expr`, it keeps the chains of one member, so that every use of a
production is a node of the tree. -/
inductive Derivation where
  /-- A factor that is a requisite. -/
  | leaf (l : Leaf)
  /-- A factor that is an expression in brackets. -/
  | group (content : Derivation)
  /-- An expression, for `or`, or a term, for `and`: its first member and the further ones. -/
  | chain (op : Connective) (head : Derivation) (tail : List Derivation)

/-- The nonterminals of the grammar, its start apart. -/
inductive Nonterminal where
  /-- `expression` for `or`, and `term` for `and`. -/
  | chain (op : Connective)
  /-- `terms` for `or`, and `factors` for `and`: the members of a chain after the first. -/
  | further (op : Connective)
  | factor

namespace Nonterminal

/-- The nonterminal of a whole expression. -/
abbrev expression : Nonterminal := .chain .or

/-- The nonterminal of a conjunction. -/
abbrev term : Nonterminal := .chain .and

/-- The nonterminal of the members of a chain. -/
def member : Connective → Nonterminal
  | .or => term
  | .and => factor

end Nonterminal

/-- `Derives n ts ds`: the nonterminal `n` derives the tokens `ts` with the trees `ds`. It is one
tree, except for the further members of a chain. -/
inductive Derives : Nonterminal → List Token → List Derivation → Prop where
  /-- `expression := term terms` and `term := factor factors` -/
  | chain {op : Connective} {ts us : List Token} {head : Derivation} {tail : List Derivation}
      (first : Derives (.member op) ts [head]) (others : Derives (.further op) us tail) :
      Derives (.chain op) (ts ++ us) [.chain op head tail]
  /-- `terms :=` and `factors :=` -/
  | none {op : Connective} : Derives (.further op) [] []
  /-- `terms := or term terms` and `factors := and factor factors` -/
  | more {op : Connective} {t : Token} {ts us : List Token} {head : Derivation}
      {tail : List Derivation} (sign : t.kind = op.token) (first : Derives (.member op) ts [head])
      (others : Derives (.further op) us tail) :
      Derives (.further op) (t :: (ts ++ us)) (head :: tail)
  /-- `factor := requisite` -/
  | leaf {t : Token} {l : Leaf} (kind : t.kind = .requisite)
      (decode : Leaf.decode t.value = .ok l) : Derives .factor [t] [.leaf l]
  /-- `factor := leftParen expression rightParen` -/
  | group {t u : Token} {ts : List Token} {content : Derivation} (opening : t.kind = .leftParen)
      (inner : Derives .expression ts [content]) (closing : u.kind = .rightParen) :
      Derives .factor (t :: (ts ++ [u])) [.group content]

/-- A lone member is a chain. -/
theorem Derives.lone {op : Connective} {ts : List Token} {d : Derivation}
    (h : Derives (.member op) ts [d]) : Derives (.chain op) ts [.chain op d []] := by
  simpa using Derives.chain h .none

/-- A lone factor is an expression. -/
theorem Derives.ofFactor {ts : List Token} {d : Derivation} (h : Derives .factor ts [d]) :
    Derives .expression ts [.chain .or (.chain .and d []) []] :=
  .lone (.lone h)

/-- `start := expression stop`: all the tokens `ts` are derived, with the tree `d`. -/
def DerivesAll (ts : List Token) (d : Derivation) : Prop :=
  ∃ us t, ts = us ++ [t] ∧ t.kind = .stop ∧ Derives .expression us [d]

/-- The tokens of a text end once, after all the others. -/
theorem derivesAll_tokenize {text : String} {d : Derivation} :
    DerivesAll (tokenize text) d ↔ Derives .expression (tokens text) [d] := by
  constructor
  · rintro ⟨us, t, hts, -, hd⟩
    obtain ⟨rfl, -⟩ := List.append_inj' hts rfl
    exact hd
  · intro hd
    exact ⟨tokens text, stopToken text, rfl, rfl, hd⟩

namespace Expr

/-- The expression of one or more members: a lone member keeps its own identity. -/
def join (op : Connective) (head : Expr) : List Expr → Expr
  | [] => head
  | m :: members => .chain op (head :: m :: members)

/-- Members, one at least, combine to their expression. -/
theorem combine_cons (op : Connective) (head : Expr) (tail : List Expr) :
    combine op (head :: tail) = .ok (join op head tail) := by
  cases tail <;> rfl

end Expr

namespace Derivation

mutual

/-- The expression of a derivation tree: its chains of one member are left out. -/
def toExpr : Derivation → Expr
  | .leaf l => .leaf l
  | .group content => .group content.toExpr
  | .chain op head tail => .join op head.toExpr (toExprs tail)

/-- The expressions of several derivation trees. -/
def toExprs : List Derivation → List Expr
  | [] => []
  | d :: ds => toExpr d :: toExprs ds

end

/-- To prove a property of every derivation tree, prove it of leaves, of groups from their content,
and of chains from their members. -/
@[elab_as_elim, induction_eliminator]
theorem induct {motive : Derivation → Prop} (leaf : ∀ l, motive (.leaf l))
    (group : ∀ content, motive content → motive (.group content))
    (chain : ∀ op head tail, motive head → (∀ m ∈ tail, motive m) → motive (.chain op head tail))
    (d : Derivation) : motive d :=
  @Derivation.rec motive (fun tail => ∀ m ∈ tail, motive m) leaf group chain
    (fun _ hm => nomatch hm)
    (fun _ _ head tail m hm => (List.mem_cons.1 hm).elim (fun h => h ▸ head) (tail m)) d

/-- Several derivation trees have the expressions of each. -/
@[simp] theorem toExprs_eq_map (ds : List Derivation) : toExprs ds = ds.map toExpr := by
  induction ds with
  | nil => rfl
  | cons d ds ih => rw [toExprs, ih, List.map_cons]

/-! ## Other leaves -/

/-- The tree with other leaves in the place of its leaves. -/
def mapLeaves (f : Leaf → Leaf) : Derivation → Derivation
  | .leaf l => .leaf (f l)
  | .group content => .group (content.mapLeaves f)
  | .chain op head tail => .chain op (head.mapLeaves f) (tail.map (mapLeaves f))

/-- With the same leaves, the tree is the same. -/
@[simp] theorem mapLeaves_id : mapLeaves id = id := by
  funext d
  rw [id]
  induction d with
  | leaf l => rw [mapLeaves, id]
  | group content ih => rw [mapLeaves, ih]
  | chain op head tail ihhead ihtail =>
    rw [mapLeaves, ihhead, List.map_congr_left ihtail, List.map_id']

end Derivation

/-- Of a token the grammar sees the kind and, in a requisite, the leaf. Where all tokens are
replaced by others of their kinds, which write other leaves, the tree is the one with these
leaves. -/
theorem Derives.map {n : Nonterminal} {ts : List Token} {ds : List Derivation} (h : Derives n ts ds)
    {f : Token → Token} {g : Leaf → Leaf} (hkind : ∀ t, (f t).kind = t.kind)
    (hdecode : ∀ t l, t.kind = .requisite → Leaf.decode t.value = .ok l →
      Leaf.decode (f t).value = .ok (g l)) :
    Derives n (ts.map f) (ds.map (Derivation.mapLeaves g)) := by
  induction h with
  | chain first others ihfirst ihothers =>
    rw [List.map_append, List.map_singleton, Derivation.mapLeaves]
    exact .chain ihfirst ihothers
  | none => exact .none
  | more sign first others ihfirst ihothers =>
    rw [List.map_cons, List.map_append, List.map_cons]
    exact .more ((hkind _).trans sign) ihfirst ihothers
  | leaf kind decode =>
    rw [List.map_singleton, List.map_singleton, Derivation.mapLeaves]
    exact .leaf ((hkind _).trans kind) (hdecode _ _ kind decode)
  | group opening inner closing ih =>
    rw [List.map_cons, List.map_append, List.map_singleton, List.map_singleton,
      Derivation.mapLeaves]
    exact .group ((hkind _).trans opening) ih ((hkind _).trans closing)

end Requisite
