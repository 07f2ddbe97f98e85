import Requisite.Proofs.Segments

/-!
# The segmentation of a text

What it means that tokens cut a text, said of the text and the tokens alone and not of the order in
which they are found: one after the other they cover the text up to an open leaf, each stands where
the ones before it end, and each has the form of its kind (`Segmentation`). `tokenize_segmentation`
shows that every text has one segmentation, and that its tokens, followed by one end, are those that
the scanner finds.

A segmentation says where each token stands among all of them, and `Segments` goes from one token to
the next. The two agree (`segmentation_iff`), so that what is known of the scanner applies.
-/

namespace Requisite

/-- The tokens `ts` cut `text` up to `rest`. -/
structure Segmentation (text : String) (ts : List Token) (rest : String) : Prop where
  /-- The values of the tokens, one after the other, are the text but for the rest. -/
  covers : text = String.join (ts.map Token.value) ++ rest
  /-- A token stands where the values before it end. -/
  position : ∀ before t after, ts = before ++ t :: after →
    t.position = (String.join (before.map Token.value)).length
  /-- A requisite is a whole leaf. -/
  leaf : ∀ t ∈ ts, t.kind = .requisite → LeafText t.value.toList
  /-- Any other token is the one character that has its kind. -/
  sign : ∀ t ∈ ts, t.kind ≠ .requisite →
    ∃ c, structural? c = some t.kind ∧ t.value = String.singleton c
  /-- The rest is nothing or an open leaf. -/
  openLeaf : rest = "" ∨ OpenLeafText rest.toList

/-! ## The two views agree -/

/-- A token that is cut stands where the values before it end. -/
theorem Segments.position_eq {position : Nat} {cs rest : List Char} {ts : List Token}
    (h : Segments position cs ts rest) {before after : List Token} {t : Token}
    (hts : ts = before ++ t :: after) :
    t.position = position + (String.join (before.map Token.value)).length := by
  induction h generalizing before with
  | done => simp at hts
  | openLeaf leaf => simp at hts
  | sign sign next ih =>
    cases before with
    | nil =>
      obtain ⟨rfl, -⟩ := List.cons.inj hts
      rfl
    | cons u before =>
      obtain ⟨rfl, htail⟩ := List.cons.inj hts
      rw [ih htail, List.map_cons, String.join_cons, String.length_append, String.length_singleton,
        Nat.add_assoc]
  | leaf leaf next ih =>
    cases before with
    | nil =>
      obtain ⟨rfl, -⟩ := List.cons.inj hts
      rfl
    | cons u before =>
      obtain ⟨rfl, htail⟩ := List.cons.inj hts
      rw [ih htail, List.map_cons, String.join_cons, String.length_append, String.length_ofList,
        Nat.add_assoc]

/-- Tokens in the form of their kinds that stand one after the other cut their text. -/
theorem segments_of_position {ts : List Token} {rest : List Char}
    (hleaf : ∀ t ∈ ts, t.kind = .requisite → LeafText t.value.toList)
    (hsign : ∀ t ∈ ts, t.kind ≠ .requisite →
      ∃ c, structural? c = some t.kind ∧ t.value = String.singleton c)
    (hrest : rest = [] ∨ OpenLeafText rest) (position : Nat)
    (hposition : ∀ before t after, ts = before ++ t :: after →
      t.position = position + (String.join (before.map Token.value)).length) :
    Segments position ((ts.flatMap fun t => t.value.toList) ++ rest) ts rest := by
  induction ts generalizing position with
  | nil =>
    rcases hrest with rfl | hopen
    · exact .done
    · exact .openLeaf hopen
  | cons t ts ih =>
    obtain ⟨kind, value, start⟩ := t
    obtain rfl : start = position := hposition [] _ ts rfl
    have hnext : Segments (start + value.length) ((ts.flatMap fun t => t.value.toList) ++ rest) ts
        rest := by
      refine ih (fun u hu => hleaf u (List.mem_cons_of_mem _ hu))
        (fun u hu => hsign u (List.mem_cons_of_mem _ hu)) _ fun before u after hts => ?_
      rw [hposition (⟨kind, value, start⟩ :: before) u after (by rw [hts, List.cons_append]),
        List.map_cons, String.join_cons, String.length_append, Nat.add_assoc]
    rw [List.flatMap_cons, List.append_assoc]
    by_cases hkind : kind = .requisite
    · subst hkind
      have hcut := Segments.leaf (hleaf _ List.mem_cons_self rfl)
        (by rwa [String.length_toList])
      rwa [String.ofList_toList] at hcut
    · obtain ⟨c, hc, rfl⟩ := hsign _ List.mem_cons_self hkind
      rw [String.length_singleton] at hnext
      simpa using Segments.sign hc hnext

/-- A text has the segmentations that lead from one token to the next. -/
theorem segmentation_iff {text rest : String} {ts : List Token} :
    Segmentation text ts rest ↔ Segments 0 text.toList ts rest.toList := by
  constructor
  · intro h
    have hrest : rest.toList = [] ∨ OpenLeafText rest.toList :=
      h.openLeaf.imp_left fun hempty => by rw [hempty]; rfl
    have hcut := segments_of_position h.leaf h.sign hrest 0 fun before t after hts => by
      rw [h.position before t after hts, Nat.zero_add]
    rw [h.covers, String.toList_append, String.toList_join, List.flatMap_map]
    exact hcut
  · intro h
    constructor
    · rw [← String.toList_inj, String.toList_append, String.toList_join, List.flatMap_map]
      exact h.eq_append
    · intro before t after hts
      rw [h.position_eq hts, Nat.zero_add]
    · intro t ht hkind
      rcases h.token ht with ⟨-, hleaf⟩ | ⟨c, hc, -⟩
      · exact hleaf
      · exact absurd (hkind ▸ hc) (structural?_ne_requisite c)
    · intro t ht hkind
      exact (h.token ht).resolve_left fun hleaf => hkind hleaf.1
    · by_cases hempty : rest = ""
      · exact .inl hempty
      · exact .inr (h.openLeafText (by simpa using hempty))

/-! ## The segmentation -/

/-- A text has at most one segmentation: its tokens are those of the scanner, and its rest is what
they do not cover. -/
theorem Segmentation.unique {text rest rest' : String} {ts ts' : List Token}
    (h : Segmentation text ts rest) (h' : Segmentation text ts' rest') :
    ts' = ts ∧ rest' = rest := by
  obtain rfl : ts' = ts := by
    rw [eq_scan_of_segments (segmentation_iff.1 h), eq_scan_of_segments (segmentation_iff.1 h')]
  have hrest := h'.covers
  rw [h.covers, String.append_right_inj] at hrest
  exact ⟨rfl, hrest.symm⟩

/-- The tokens of a text are followed by one end, which stands after the whole text. They cut the
text up to a rest that is no leaf yet, and there is no other way to cut it. -/
theorem tokenize_segmentation (text : String) :
    ∃ ts rest, tokenize text = ts ++ [⟨.stop, "$", text.length⟩] ∧ (∀ t ∈ ts, t.kind ≠ .stop) ∧
      Segmentation text ts rest ∧
      ∀ ts' rest', Segmentation text ts' rest' → ts' = ts ∧ rest' = rest := by
  obtain ⟨rest, hcut⟩ := exists_segments_tokens text
  have h : Segmentation text (tokens text) (String.ofList rest) :=
    segmentation_iff.2 (by rwa [String.toList_ofList])
  exact ⟨tokens text, String.ofList rest, rfl, fun t ht => kind_ne_stop ht, h,
    fun ts' rest' h' => h.unique h'⟩

/-- Braces at the start of a leaf, brackets inside it and a closing brace in its id cut nothing, and
the open leaf at the end is no token. -/
example : tokenize "\x7b(\x7bffff\x7d&a)\x7db\x7bffff|\x7d(\x7d" =
    [⟨.requisite, "\x7b(\x7bffff\x7d", 0⟩, ⟨.and, "&", 8⟩,
      ⟨.requisite, "a)\x7db\x7bffff|\x7d", 9⟩, ⟨.leftParen, "(", 20⟩, ⟨.stop, "$", 22⟩] := by
  decide

end Requisite
