import Requisite.Proofs.Expr.Descent
import Requisite.Proofs.Segments

/-!
# Text that no token covers

A leaf that is still open where the text ends yields no token. Where the text before it is a whole
expression, nothing else is missing, so the expression is accepted and the open leaf is lost without
a fault. `accepted_uncovered_iff` says that this is the only way to lose text, and that the graph is
then the one of the text before the leaf.
-/

namespace Requisite

/-- The text that the tokens of an expression cover, its end apart. -/
def coveredText (expression : String) : String :=
  String.join (((tokenize expression).filter fun t => t.kind ≠ .stop).map Token.value)

/-- The end covers no text. -/
theorem coveredText_eq (expression : String) :
    coveredText expression = String.join ((tokens expression).map Token.value) := by
  have hkeep : (tokens expression).filter (fun t => t.kind ≠ .stop) = tokens expression :=
    List.filter_eq_self.2 fun t ht => decide_eq_true (kind_ne_stop ht)
  rw [coveredText, tokenize, List.filter_append, hkeep]
  simp [stopToken]

/-- The characters of the covered text are those of the tokens. -/
theorem toList_coveredText (expression : String) :
    (coveredText expression).toList = (tokens expression).flatMap fun t => t.value.toList := by
  rw [coveredText_eq, String.toList_join, List.flatMap_map]

/-- The covered text and the open leaf after it, if there is one, are the expression. -/
theorem exists_covered_append (expression : String) :
    ∃ leaf : String, expression = coveredText expression ++ leaf ∧
      (leaf = "" ∨ OpenLeafText leaf.toList) := by
  obtain ⟨rest, hcut⟩ := exists_segments_tokens expression
  refine ⟨String.ofList rest, ?_, ?_⟩
  · rw [← String.toList_inj, String.toList_append, toList_coveredText, String.toList_ofList]
    exact hcut.eq_append
  · by_cases hrest : rest = []
    · exact .inl (by rw [hrest])
    · rw [String.toList_ofList]
      exact .inr (hcut.openLeafText hrest)

/-- A text is cut into its tokens and what they do not cover. -/
theorem segments_tokens {text leaf : String} (h : text = coveredText text ++ leaf) :
    Segments 0 text.toList (tokens text) leaf.toList := by
  obtain ⟨rest, hcut⟩ := exists_segments_tokens text
  have hall : (coveredText text).toList ++ leaf.toList = (coveredText text).toList ++ rest := by
    rw [← String.toList_append, ← h, toList_coveredText]
    exact hcut.eq_append
  rwa [List.append_cancel_left hall]

/-- An open leaf after covered text changes no token. -/
theorem tokens_append_openLeaf {before leaf : String} (hbefore : coveredText before = before)
    (hleaf : leaf = "" ∨ OpenLeafText leaf.toList) : tokens (before ++ leaf) = tokens before := by
  obtain ⟨rest, hcut⟩ := exists_segments_tokens before
  have hrest : leaf.toList = [] ∨ OpenLeafText leaf.toList :=
    hleaf.imp_left fun h => by rw [h]; rfl
  have hcut' := hcut.replace_rest hrest
  rw [← toList_coveredText, hbefore, ← String.toList_append] at hcut'
  exact tokens_eq_of_segments hcut'

/-- The covered text has the tokens of the expression. -/
theorem tokens_coveredText (expression : String) :
    tokens (coveredText expression) = tokens expression := by
  obtain ⟨rest, hcut⟩ := exists_segments_tokens expression
  have hcut' := hcut.replace_rest (.inl rfl)
  rw [← toList_coveredText, List.append_nil] at hcut'
  exact tokens_eq_of_segments hcut'

/-- Covered text is covered again. -/
theorem coveredText_coveredText (expression : String) :
    coveredText (coveredText expression) = coveredText expression := by
  rw [coveredText_eq, tokens_coveredText, ← coveredText_eq]

/-- Texts with the same tokens, neither of them empty, have the same graph. -/
theorem ofText_eq_ok_congr {owner x y : String} {g : Graph} (hx : x ≠ "") (hy : y ≠ "")
    (h : tokens x = tokens y) : Graph.ofText owner x = .ok g ↔ Graph.ofText owner y = .ok g := by
  rw [Graph.ofText_eq_ok_iff hx, Graph.ofText_eq_ok_iff hy, h]

/-- An expression is accepted although its tokens do not cover it exactly when it is a covered
expression with an open leaf after it; it then has the graph of the covered expression. -/
theorem accepted_uncovered_iff (owner expression : String) (g : Graph) :
    Graph.ofText owner expression = .ok g ∧ coveredText expression ≠ expression ↔
      ∃ before leaf, expression = before ++ leaf ∧ OpenLeafText leaf.toList ∧
        coveredText before = before ∧ before ≠ "" ∧ Graph.ofText owner before = .ok g := by
  constructor
  · rintro ⟨hg, hne⟩
    obtain ⟨leaf, hexpression, hleaf⟩ := exists_covered_append expression
    have hopen : OpenLeafText leaf.toList := hleaf.resolve_left fun h => by
      rw [h, String.append_empty] at hexpression
      exact hne hexpression.symm
    have hempty : expression ≠ "" := fun h => hne (by rw [h]; rfl)
    have hcovered : coveredText expression ≠ "" := fun h => by
      -- Without covered text there is no token, and no tokens are no expression.
      obtain ⟨d, hd, -⟩ := (Graph.ofText_eq_ok_iff hempty).1 hg
      rw [← tokens_coveredText, h] at hd
      exact hd.ne_nil rfl
    exact ⟨coveredText expression, leaf, hexpression, hopen, coveredText_coveredText expression,
      hcovered, (ofText_eq_ok_congr hcovered hempty (tokens_coveredText expression)).2 hg⟩
  · rintro ⟨before, leaf, rfl, hopen, hbefore, hempty, hg⟩
    have htokens := tokens_append_openLeaf hbefore (.inr hopen)
    have hleaf : leaf ≠ "" := by
      rintro rfl
      cases hopen
    have hne : before ++ leaf ≠ "" := fun h => hempty (String.append_eq_empty_iff.1 h).1
    refine ⟨(ofText_eq_ok_congr hne hempty htokens).2 hg, fun h => hleaf ?_⟩
    rw [coveredText_eq, htokens, ← coveredText_eq, hbefore] at h
    simpa using h.symm

/-- The open leaf `B` is lost: the graph is that of `A{ffff}` alone. -/
theorem openLeaf_lost :
    Graph.ofText "C" "A{ffff}B" =
        .ok { nodes := [⟨"A", .value⟩], relations := [{ source := "C", target := "A" }],
              root := some "A" } ∧
      coveredText "A{ffff}B" = "A{ffff}" := by
  have hd : Derives .expression (tokens "A{ffff}B")
      [.chain .or (.chain .and (.leaf ⟨"A", false, false, false, false, ""⟩) []) []] :=
    .ofFactor (.leaf rfl rfl)
  exact ⟨(Graph.ofText_eq_ok_iff (by decide)).2 ⟨_, hd, rfl⟩, rfl⟩

end Requisite
