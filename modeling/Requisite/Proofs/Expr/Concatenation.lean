import Requisite.Proofs.Expr.OpenLeaf
import Requisite.Proofs.Segmentation

/-!
# Texts one after the other

When text is written behind a text, the tokens of the first text stay as they are, and its open
leaf, if it has one, is cut together with what follows (`tokens_append`). So where no leaf is open
the tokens of the two texts stand one after the other. And an open leaf is closed, if at all, in the
text that follows, so that all of it belongs to one token at most, which starts where the leaf does
(`Segments.position_openLeaf`). `tokenize_append` says both.
-/

namespace Requisite

section

variable {position : Nat} {cs ds rest text : List Char} {ts : List Token} {t : Token}

/-- No token stands before the text that it is cut from. -/
theorem Segments.le_position (h : Segments position cs ts rest) (ht : t ∈ ts) :
    position ≤ t.position := by
  obtain ⟨before, after, hts⟩ := List.append_of_mem ht
  rw [h.position_eq hts]
  exact Nat.le_add_right _ _

/-- A token of an open leaf and what follows it starts with the leaf, or after it. -/
theorem Segments.position_openLeaf (h : Segments position (text ++ ds) ts rest)
    (hopen : OpenLeafText text) (ht : t ∈ ts) :
    t.position = position ∨ position + text.length ≤ t.position := by
  generalize hcs : text ++ ds = cs at h
  cases h with
  | done => cases ht
  | openLeaf leaf => cases ht
  | sign sign next =>
    obtain ⟨c, id, rfl, first⟩ := hopen.exists_cons
    obtain ⟨rfl, -⟩ := List.cons.inj hcs
    rw [first] at sign
    cases sign
  | leaf leaf next =>
    rcases List.mem_cons.1 ht with rfl | ht
    · exact .inl rfl
    · have hafter := next.le_position ht
      rcases List.append_eq_append_iff.1 hcs with ⟨more, hleaf, -⟩ | ⟨more, htext, -⟩
      · -- The first token goes on at least as far as the open leaf.
        rw [hleaf, List.length_append] at hafter
        exact .inr (by omega)
      · exact absurd htext (hopen.ne_append leaf)

end

/-- The tokens of a text are followed by those of its open leaf with the text behind it. -/
theorem tokens_append {a leaf : String} (h : a = coveredText a ++ leaf) (b : String) :
    tokens (a ++ b) =
      tokens a ++ (tokens (leaf ++ b)).map (Token.shift (coveredText a).length) := by
  obtain ⟨rest, hcut⟩ := exists_segments_tokens (leaf ++ b)
  have hshift := hcut.shift (coveredText a).length
  rw [← String.length_toList, toList_coveredText, String.toList_append] at hshift
  have hall := (segments_tokens h).append_rest hshift
  rw [← toList_coveredText, String.length_toList, ← String.toList_append] at hall
  exact tokens_eq_of_segments hall

/-- A text with another one behind it is tokenized as the text itself, without its end, and then as
its open leaf with the other one behind it. -/
theorem tokenize_append_leaf {a leaf : String} (h : a = coveredText a ++ leaf) (b : String) :
    tokenize (a ++ b) =
      tokens a ++ (tokenize (leaf ++ b)).map (Token.shift (coveredText a).length) := by
  have hlength : (a ++ b).length = (leaf ++ b).length + (coveredText a).length := by
    have ha := congrArg String.length h
    rw [String.length_append] at ha
    rw [String.length_append, String.length_append]
    omega
  have hstop : stopToken (a ++ b) = (stopToken (leaf ++ b)).shift (coveredText a).length := by
    rw [stopToken, hlength]
    rfl
  rw [tokenize, tokens_append h, hstop, tokenize, List.map_append, List.append_assoc,
    List.map_singleton]

/-- A token stands within the covered text. -/
theorem position_le_of_mem_tokens {text : String} {t : Token} (ht : t ∈ tokens text) :
    t.position ≤ (coveredText text).length := by
  obtain ⟨rest, hcut⟩ := exists_segments_tokens text
  obtain ⟨before, after, hts⟩ := List.append_of_mem ht
  rw [hcut.position_eq hts, coveredText_eq, hts, List.map_append, String.join_append,
    String.length_append, Nat.zero_add]
  exact Nat.le_add_right _ _

/-- A token of an open leaf with a text behind it, or the end of both, stands at the first character
of the leaf or behind the leaf. -/
theorem position_of_openLeaf {leaf : String} (hopen : OpenLeafText leaf.toList) {b : String}
    {t : Token} (ht : t ∈ tokenize (leaf ++ b)) : t.position = 0 ∨ leaf.length ≤ t.position := by
  rcases List.mem_append.1 ht with ht | hstop
  · obtain ⟨rest, hcut⟩ := exists_segments_tokens (leaf ++ b)
    rw [String.toList_append] at hcut
    have hposition := hcut.position_openLeaf hopen ht
    rwa [Nat.zero_add, String.length_toList] at hposition
  · obtain rfl := List.mem_singleton.1 hstop
    refine .inr ?_
    rw [stopToken, String.length_append]
    exact Nat.le_add_right _ _

/-- The tokens of two texts written one after the other. Where no leaf is open at the end of the
first text, they are those of the two texts, the second ones further on by its length. Where one is
open, they are those of the first text and of the leaf with the second text, and no token starts
within the leaf but with its first character. -/
theorem tokenize_append (a b : String) :
    (coveredText a = a →
      tokenize (a ++ b) = tokens a ++ (tokenize b).map (Token.shift a.length)) ∧
    (coveredText a ≠ a →
      ∃ leaf, a = coveredText a ++ leaf ∧ OpenLeafText leaf.toList ∧
        tokenize (a ++ b) =
          tokens a ++ (tokenize (leaf ++ b)).map (Token.shift (coveredText a).length) ∧
        ∀ t ∈ tokenize (a ++ b), t.position ≤ (coveredText a).length ∨ a.length ≤ t.position) := by
  constructor
  · intro h
    have hleaf : a = coveredText a ++ "" := by rw [h, String.append_empty]
    rw [tokenize_append_leaf hleaf, h, String.empty_append]
  · intro h
    obtain ⟨leaf, ha, hleaf⟩ := exists_covered_append a
    have hopen : OpenLeafText leaf.toList := hleaf.resolve_left fun hempty => by
      rw [hempty, String.append_empty] at ha
      exact h ha.symm
    have htokens := tokenize_append_leaf ha b
    refine ⟨leaf, ha, hopen, htokens, fun t ht => ?_⟩
    have hlength : a.length = (coveredText a).length + leaf.length := by
      rw [← String.length_append, ← ha]
    rw [htokens, List.mem_append] at ht
    rcases ht with ht | ht
    · exact .inl (position_le_of_mem_tokens ht)
    · obtain ⟨u, hu, rfl⟩ := List.mem_map.1 ht
      have hposition : (u.shift (coveredText a).length).position =
          u.position + (coveredText a).length := rfl
      rcases position_of_openLeaf hopen hu with hstart | hafter <;> omega

/-- An expression that goes on with a conjunction, and one that ends in a leaf with a bracket in its
id, which the text behind it closes. -/
theorem tokenize_append_bracketInId :
    coveredText "A{ffff}&" = "A{ffff}&" ∧
      tokenize ("A{ffff}&" ++ "B(C{ffff}") =
        tokens "A{ffff}&" ++ (tokenize "B(C{ffff}").map (Token.shift 8) ∧
      coveredText "A{ffff}&B(C" ≠ "A{ffff}&B(C" ∧
      ∃ leaf, "A{ffff}&B(C" = coveredText "A{ffff}&B(C" ++ leaf ∧ OpenLeafText leaf.toList ∧
        tokenize ("A{ffff}&B(C" ++ "|{ffff})") =
          tokens "A{ffff}&B(C" ++
            (tokenize (leaf ++ "|{ffff})")).map (Token.shift (coveredText "A{ffff}&B(C").length) ∧
        ∀ t ∈ tokenize ("A{ffff}&B(C" ++ "|{ffff})"),
          t.position ≤ (coveredText "A{ffff}&B(C").length ∨ 11 ≤ t.position := by
  have hclosed : coveredText "A{ffff}&" = "A{ffff}&" := rfl
  have hopen : coveredText "A{ffff}&B(C" ≠ "A{ffff}&B(C" := by decide
  exact ⟨hclosed, (tokenize_append _ _).1 hclosed, hopen, (tokenize_append _ _).2 hopen⟩

end Requisite
