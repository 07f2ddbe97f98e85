import Requisite.Proofs.Expr.OpenLeaf
import Requisite.Proofs.Expr.Sharing

/-!
# Brackets around a whole expression

Brackets around an expression count once: in two or more pairs of them a text has the graph that it
has in one pair (`Graph.ofText_inBrackets`). An expression that is a leaf or stands in brackets has
this graph also by itself.

Within brackets the tokens of a text are the same, but for their positions, which the grammar does
not see (`Derives.ofFactor_group`). The expression is then a group, and a group of what is no chain
records nothing of its own (`Expr.graph_group`).
-/

namespace Requisite

/-- The text in `n` pairs of brackets. -/
def inBrackets : Nat → String → String
  | 0, text => text
  | n + 1, text => "(" ++ inBrackets n text ++ ")"

/-! ## The tokens of a text in brackets -/

/-- Covered text leaves no rest. -/
theorem segments_of_covered {text : String} (h : coveredText text = text) :
    Segments 0 text.toList (tokens text) [] :=
  segments_tokens (by rw [h, String.append_empty])

/-- Text that leaves no rest is covered. -/
theorem covered_of_segments {text : String} {ts : List Token}
    (h : Segments 0 text.toList ts []) : coveredText text = text := by
  have hall := h.eq_append
  rw [← tokens_eq_of_segments h, ← toList_coveredText, List.append_nil] at hall
  exact String.toList_inj.1 hall.symm

/-- Covered text in brackets is cut into the brackets and its tokens, which stand one further on. -/
theorem segments_inBrackets {text : String} (h : coveredText text = text) :
    Segments 0 ("(" ++ text ++ ")").toList
      (⟨.leftParen, "(", 0⟩ :: ((tokens text).map (Token.shift 1) ++
        [⟨.rightParen, ")", 1 + text.toList.length⟩])) [] := by
  have hinner : Segments 1 text.toList ((tokens text).map (Token.shift 1)) [] :=
    (segments_of_covered h).shift 1
  have hclosing (position : Nat) : Segments position [')'] [⟨.rightParen, ")", position⟩] [] :=
    .sign rfl .done
  have hcut : Segments 0 ('(' :: (text.toList ++ [')'])) _ [] :=
    .sign rfl (hinner.append (hclosing _))
  simpa using hcut

/-- A token that stands elsewhere derives the same. -/
theorem Derives.shift {n : Nonterminal} {ts : List Token} {ds : List Derivation}
    (h : Derives n ts ds) (k : Nat) : Derives n (ts.map (Token.shift k)) ds := by
  have hmap : Derives n (ts.map (Token.shift k)) (ds.map (Derivation.mapLeaves id)) :=
    h.map (fun t => rfl) fun t l _ hdecode => hdecode
  simpa using hmap

/-- The tree of an expression that is one factor. -/
def Derivation.ofFactor (d : Derivation) : Derivation :=
  .chain .or (.chain .and d []) []

/-- Its expression is that of the factor. -/
@[simp] theorem Derivation.toExpr_ofFactor (d : Derivation) : (ofFactor d).toExpr = d.toExpr := by
  rw [ofFactor, toExpr_lone, toExpr_lone]

/-- Covered text in brackets derives one factor, the group of what the text derives. -/
theorem Derives.ofFactor_group {text : String} {d : Derivation}
    (h : Derives .expression (tokens text) [d]) (hcovered : coveredText text = text) :
    Derives .expression (tokens ("(" ++ text ++ ")")) [.ofFactor (.group d)] := by
  rw [tokens_eq_of_segments (segments_inBrackets hcovered)]
  exact .ofFactor (.group rfl (h.shift 1) rfl)

/-! ## Graphs of groups -/

/-- The group of an expression that is no chain has the graph of the expression. -/
theorem Expr.graph_group (owner : String) {e : Expr} (h : e.isChain = false) :
    (Expr.group e).graph owner = e.graph owner := by
  cases e with
  | leaf l =>
    simp [graph, readNodes, storedNodes, readRelations, storedRelations, leaves, nodeId]
  | group content =>
    simp [graph, readNodes, storedNodes, readRelations, storedRelations, leaves, nodeId]
  | chain op members => simp [isChain] at h

/-- Covered text in one or more pairs of brackets derives a group, whose graph is that of the group
of what the text derives. -/
theorem Derives.exists_inBrackets {text : String} {d : Derivation}
    (h : Derives .expression (tokens text) [d]) (hcovered : coveredText text = text)
    (owner : String) (n : Nat) :
    coveredText (inBrackets (n + 1) text) = inBrackets (n + 1) text ∧
      ∃ content, Derives .expression (tokens (inBrackets (n + 1) text))
        [.ofFactor (.group content)] ∧
        (Expr.group content.toExpr).graph owner = (Expr.group d.toExpr).graph owner := by
  induction n with
  | zero =>
    exact ⟨covered_of_segments (segments_inBrackets hcovered), d, h.ofFactor_group hcovered, rfl⟩
  | succ n ih =>
    obtain ⟨hinner, content, hd, hgraph⟩ := ih
    refine ⟨covered_of_segments (segments_inBrackets hinner), _, hd.ofFactor_group hinner, ?_⟩
    rw [Derivation.toExpr_ofFactor, Derivation.toExpr, Expr.graph_group owner rfl, hgraph]

/-- An accepted text that leaves no leaf open has one graph in any number of pairs of brackets, one
at least. If it is a leaf or stands in brackets already, it has this graph by itself. -/
theorem Graph.ofText_inBrackets {owner text : String} {g : Graph} (hne : text ≠ "")
    (h : Graph.ofText owner text = .ok g) (hcovered : coveredText text = text) :
    ∃ g', (∀ n, 1 ≤ n → Graph.ofText owner (inBrackets n text) = .ok g') ∧
      ((∃ l, DerivesAll (tokenize text) (.ofFactor (.leaf l))) ∨
        (∃ content, DerivesAll (tokenize text) (.ofFactor (.group content))) → g' = g) := by
  obtain ⟨d, hd, rfl⟩ := (Graph.ofText_eq_ok_iff hne).1 h
  refine ⟨(Expr.group d.toExpr).graph owner, fun n hn => ?_, fun hfactor => ?_⟩
  · obtain ⟨n, rfl⟩ : ∃ k, n = k + 1 := ⟨n - 1, by omega⟩
    obtain ⟨-, content, hcontent, hgraph⟩ := hd.exists_inBrackets hcovered owner n
    rw [hcontent.ofText_eq_ok, Derivation.toExpr_ofFactor, Derivation.toExpr, hgraph]
  · refine Expr.graph_group owner ?_
    -- Tokens have one tree, so it is the one of the factor.
    have htree {f : Derivation} (hf : DerivesAll (tokenize text) (.ofFactor f)) :
        d.toExpr = f.toExpr := by
      have hunique : [d] = [.ofFactor f] := hd.unique (derivesAll_tokenize.1 hf)
      rw [List.singleton_inj.1 hunique, Derivation.toExpr_ofFactor]
    rcases hfactor with ⟨l, hl⟩ | ⟨content, hcontent⟩
    · rw [htree hl]
      rfl
    · rw [htree hcontent]
      rfl

/-- The text `(A&B)` in two more pairs of brackets has the graph that it has by itself. -/
theorem Graph.ofText_inBrackets_enforced :
    "(A{ftff}&B{ffff})" ≠ "" ∧ coveredText "(A{ftff}&B{ffff})" = "(A{ftff}&B{ffff})" ∧
      ∃ g, Graph.ofText "C" "(A{ftff}&B{ffff})" = .ok g ∧
        Graph.ofText "C" "(((A{ftff}&B{ffff})))" = .ok g := by
  have hne : "(A{ftff}&B{ffff})" ≠ "" := by decide
  have hcovered : coveredText "(A{ftff}&B{ffff})" = "(A{ftff}&B{ffff})" := by decide
  have htree := Derivation.derivesAll_enforced
  have hg := (derivesAll_tokenize.1 htree).ofText_eq_ok "C"
  obtain ⟨g', hall, hown⟩ := Graph.ofText_inBrackets hne hg hcovered
  have htwo := hall 2 (by decide)
  rw [hown (.inr ⟨_, htree⟩)] at htwo
  exact ⟨hne, hcovered, _, hg, htwo⟩

end Requisite
