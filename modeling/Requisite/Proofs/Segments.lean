import Requisite.Token

/-!
# How a text is cut into tokens

`Segments position cs ts rest` says that the text `cs`, which starts `position` characters into an
expression, is cut into the tokens `ts` from its start on, and that `rest` of it is a leaf that is
still open where the text ends. The scanner cuts every text so (`exists_segments`), and there is no
other way to cut it (`eq_scan_of_segments`). The facts about tokens that other proofs need follow
from the relation, and never look at the states of the scanner.
-/

namespace Requisite

/-- The text of a whole leaf: its first character is no bracket and no connective, the next opening
brace opens its block, and the first closing brace after that is its end. -/
inductive LeafText : List Char → Prop where
  | mk {c : Char} {id block : List Char} (first : structural? c = none) (noStart : blockStart ∉ id)
      (noEnd : blockEnd ∉ block) : LeafText (c :: (id ++ blockStart :: (block ++ [blockEnd])))

/-- The text of a leaf that is open at its end: no brace after its first character opens a block,
or none after that one closes it. -/
inductive OpenLeafText : List Char → Prop where
  | inId {c : Char} {id : List Char} (first : structural? c = none) (noStart : blockStart ∉ id) :
      OpenLeafText (c :: id)
  | inBlock {c : Char} {id block : List Char} (first : structural? c = none)
      (noStart : blockStart ∉ id) (noEnd : blockEnd ∉ block) :
      OpenLeafText (c :: (id ++ blockStart :: block))

/-- The text `cs`, which starts at `position`, is cut into tokens and the open leaf `rest`. -/
inductive Segments : Nat → List Char → List Token → List Char → Prop where
  /-- Nothing is left. -/
  | done {position : Nat} : Segments position [] [] []
  /-- The text ends within a leaf. -/
  | openLeaf {position : Nat} {text : List Char} (leaf : OpenLeafText text) :
      Segments position text [] text
  /-- The text goes on with a bracket or a connective. -/
  | sign {position : Nat} {c : Char} {kind : TokenKind} {cs rest : List Char} {ts : List Token}
      (sign : structural? c = some kind) (next : Segments (position + 1) cs ts rest) :
      Segments position (c :: cs) (⟨kind, String.singleton c, position⟩ :: ts) rest
  /-- The text goes on with a leaf. -/
  | leaf {position : Nat} {text cs rest : List Char} {ts : List Token} (leaf : LeafText text)
      (next : Segments (position + text.length) cs ts rest) :
      Segments position (text ++ cs) (⟨.requisite, String.ofList text, position⟩ :: ts) rest

/-- A character by itself is no requisite. -/
theorem structural?_ne_requisite (c : Char) : structural? c ≠ some .requisite := by
  unfold structural?
  split <;> simp

/-- It is not the end of a text. -/
theorem structural?_ne_stop (c : Char) : structural? c ≠ some .stop := by
  unfold structural?
  split <;> simp

/-! ## The states of the scanner -/

/-- A block without its closing brace yields no token. -/
theorem scan_inBlock_open {block : List Char} (h : blockEnd ∉ block) (start position : Nat)
    (text : List Char) : scan (.inBlock start text) position block = [] := by
  induction block generalizing position text with
  | nil => rfl
  | cons c block ih =>
    obtain ⟨hc, hblock⟩ := not_or.1 (mt List.mem_cons.2 h)
    rw [scan_inBlock, if_neg (Ne.symm hc)]
    exact ih hblock _ _

/-- A block up to its closing brace ends the leaf. -/
theorem scan_inBlock_closed {block : List Char} (h : blockEnd ∉ block) (start position : Nat)
    (text cs : List Char) :
    scan (.inBlock start text) position (block ++ blockEnd :: cs) =
      ⟨.requisite, String.ofList (text.reverse ++ block ++ [blockEnd]), start⟩ ::
        scan .between (position + block.length + 1) cs := by
  induction block generalizing position text with
  | nil =>
    rw [List.nil_append, scan_inBlock, if_pos rfl]
    simp
  | cons c block ih =>
    obtain ⟨hc, hblock⟩ := not_or.1 (mt List.mem_cons.2 h)
    have hpos : position + 1 + block.length = position + (c :: block).length := by simp; omega
    rw [List.cons_append, scan_inBlock, if_neg (Ne.symm hc), ih hblock, hpos]
    simp

/-- An id without an opening brace yields no token. -/
theorem scan_inId_open {id : List Char} (h : blockStart ∉ id) (start position : Nat)
    (text : List Char) : scan (.inId start text) position id = [] := by
  induction id generalizing position text with
  | nil => rfl
  | cons c id ih =>
    obtain ⟨hc, hid⟩ := not_or.1 (mt List.mem_cons.2 h)
    rw [scan_inId, if_neg (Ne.symm hc)]
    exact ih hid _ _

/-- An id up to its opening brace leads into the block. -/
theorem scan_inId_closed {id : List Char} (h : blockStart ∉ id) (start position : Nat)
    (text cs : List Char) :
    scan (.inId start text) position (id ++ blockStart :: cs) =
      scan (.inBlock start (blockStart :: (id.reverse ++ text))) (position + id.length + 1) cs := by
  induction id generalizing position text with
  | nil =>
    rw [List.nil_append, scan_inId, if_pos rfl]
    simp
  | cons c id ih =>
    obtain ⟨hc, hid⟩ := not_or.1 (mt List.mem_cons.2 h)
    have hpos : position + 1 + id.length = position + (c :: id).length := by simp; omega
    rw [List.cons_append, scan_inId, if_neg (Ne.symm hc), ih hid, hpos]
    simp

/-- A leaf that is open at the end yields no token. -/
theorem scan_openLeaf {text : List Char} (h : OpenLeafText text) (position : Nat) :
    scan .between position text = [] := by
  cases h with
  | inId first noStart =>
    rw [scan_between, first]
    exact scan_inId_open noStart _ _ _
  | inBlock first noStart noEnd =>
    rw [scan_between, first]
    simp only [scan_inId_closed noStart]
    exact scan_inBlock_open noEnd _ _ _

/-- A whole leaf yields its token. -/
theorem scan_leaf {text : List Char} (h : LeafText text) (position : Nat) (cs : List Char) :
    scan .between position (text ++ cs) =
      ⟨.requisite, String.ofList text, position⟩ :: scan .between (position + text.length) cs := by
  cases h with
  | @mk c id block first noStart noEnd =>
    rw [List.cons_append, scan_between, first, List.append_assoc, List.cons_append,
      List.append_assoc, List.singleton_append]
    simp only [scan_inId_closed noStart, scan_inBlock_closed noEnd]
    congr 2
    · simp
    · simp; omega

/-! ## The scanner cuts -/

/-- Before a character that is no bracket and no connective stands a leaf, open or whole. -/
theorem openLeaf_or_leaf {c : Char} (h : structural? c = none) (cs : List Char) :
    OpenLeafText (c :: cs) ∨ ∃ text after, c :: cs = text ++ after ∧ LeafText text := by
  by_cases hstart : blockStart ∈ cs
  · obtain ⟨id, rest, rfl, hid⟩ := List.eq_append_cons_of_mem hstart
    by_cases hend : blockEnd ∈ rest
    · obtain ⟨block, after, rfl, hblock⟩ := List.eq_append_cons_of_mem hend
      exact .inr ⟨_, after, by simp, .mk h hid hblock⟩
    · exact .inl (.inBlock h hid hend)
  · exact .inl (.inId h hstart)

/-- The scanner cuts every text. -/
theorem exists_segments (position : Nat) (cs : List Char) :
    ∃ rest, Segments position cs (scan .between position cs) rest := by
  -- A leaf is passed in one step, so the induction is on the length and not on the characters.
  induction hn : cs.length using Nat.strongRecOn generalizing position cs with
  | ind n ih =>
    cases cs with
    | nil => exact ⟨[], .done⟩
    | cons c cs =>
      cases hc : structural? c with
      | some kind =>
        obtain ⟨rest, hrest⟩ := ih cs.length (by simp at hn; omega) (position + 1) cs rfl
        rw [scan_between, hc]
        exact ⟨rest, .sign hc hrest⟩
      | none =>
        rcases openLeaf_or_leaf hc cs with hopen | ⟨text, after, htext, hleaf⟩
        · rw [scan_openLeaf hopen]
          exact ⟨c :: cs, .openLeaf hopen⟩
        · have hpos : 0 < text.length := by cases hleaf; simp
          have hlen : after.length < n := by rw [← hn, htext, List.length_append]; omega
          obtain ⟨rest, hrest⟩ := ih after.length hlen (position + text.length) after rfl
          rw [htext, scan_leaf hleaf]
          exact ⟨rest, .leaf hleaf hrest⟩

/-- Text that is cut into tokens is cut as the scanner cuts it. -/
theorem eq_scan_of_segments {position : Nat} {cs rest : List Char} {ts : List Token}
    (h : Segments position cs ts rest) : ts = scan .between position cs := by
  induction h with
  | done => rfl
  | openLeaf leaf => exact (scan_openLeaf leaf _).symm
  | sign sign next ih => rw [scan_between, sign, ih]
  | leaf leaf next ih => rw [scan_leaf leaf, ih]

/-! ## What is cut -/

section

variable {position : Nat} {cs rest : List Char} {ts : List Token}

/-- The tokens and the open leaf are the text again. -/
theorem Segments.eq_append (h : Segments position cs ts rest) :
    cs = ts.flatMap (fun t => t.value.toList) ++ rest := by
  induction h with
  | done => rfl
  | openLeaf leaf => rfl
  | sign sign next ih =>
    rw [ih]
    simp
  | leaf leaf next ih =>
    rw [ih]
    simp

/-- What is not cut into tokens is an open leaf. -/
theorem Segments.openLeafText (h : Segments position cs ts rest) (hrest : rest ≠ []) :
    OpenLeafText rest := by
  induction h with
  | done => exact absurd rfl hrest
  | openLeaf leaf => exact leaf
  | sign sign next ih => exact ih hrest
  | leaf leaf next ih => exact ih hrest

/-- The tokens do not depend on the open leaf after them: with another one, or none, the text is cut
in the same way. -/
theorem Segments.replace_rest (h : Segments position cs ts rest) {rest' : List Char}
    (hrest' : rest' = [] ∨ OpenLeafText rest') :
    Segments position (ts.flatMap (fun t => t.value.toList) ++ rest') ts rest' := by
  have hend (position : Nat) : Segments position rest' [] rest' := by
    rcases hrest' with rfl | hopen
    · exact .done
    · exact .openLeaf hopen
  induction h with
  | done => exact hend _
  | openLeaf leaf => exact hend _
  | sign sign next ih => simpa using Segments.sign sign ih
  | leaf leaf next ih => simpa using Segments.leaf leaf ih

/-- A requisite is a whole leaf, and the other tokens are brackets and connectives. -/
theorem Segments.token (h : Segments position cs ts rest) {t : Token} (ht : t ∈ ts) :
    t.kind = .requisite ∧ LeafText t.value.toList ∨
      ∃ c, structural? c = some t.kind ∧ t.value = String.singleton c := by
  induction h with
  | done => simp at ht
  | openLeaf leaf => simp at ht
  | sign sign next ih =>
    rcases List.mem_cons.1 ht with rfl | ht
    · exact .inr ⟨_, sign, rfl⟩
    · exact ih ht
  | leaf leaf next ih =>
    rcases List.mem_cons.1 ht with rfl | ht
    · exact .inl ⟨rfl, by simpa using leaf⟩
    · exact ih ht

end

/-! ## Texts one after the other -/

/-- The token, where `k` more characters stand before it. -/
def Token.shift (k : Nat) (t : Token) : Token :=
  { t with position := t.position + k }

section

variable {position : Nat} {cs ds rest : List Char} {ts us : List Token}

/-- A text that starts further on is cut in the same way. -/
theorem Segments.shift (h : Segments position cs ts rest) (k : Nat) :
    Segments (position + k) cs (ts.map (Token.shift k)) rest := by
  induction h with
  | done => exact .done
  | openLeaf leaf => exact .openLeaf leaf
  | sign sign next ih =>
    rw [Nat.add_right_comm] at ih
    exact .sign sign ih
  | leaf leaf next ih =>
    rw [Nat.add_right_comm] at ih
    exact .leaf leaf ih

/-- The open leaf after the tokens is cut together with the text that follows. -/
theorem Segments.append_rest {rest' : List Char} (h : Segments position cs ts rest)
    (h' : Segments (position + (ts.flatMap fun t => t.value.toList).length) (rest ++ ds) us rest') :
    Segments position (cs ++ ds) (ts ++ us) rest' := by
  induction h with
  | done => exact h'
  | openLeaf leaf => exact h'
  | sign sign next ih =>
    refine .sign sign (ih ?_)
    simpa [Nat.add_assoc, Nat.add_comm 1] using h'
  | leaf leaf next ih =>
    rw [List.append_assoc]
    refine .leaf leaf (ih ?_)
    simpa [Nat.add_assoc] using h'

/-- Where no leaf is open, the text goes on with whatever follows. -/
theorem Segments.append (h : Segments position cs ts [])
    (h' : Segments (position + cs.length) ds us rest) :
    Segments position (cs ++ ds) (ts ++ us) rest := by
  refine h.append_rest ?_
  have hall := h.eq_append
  rw [List.append_nil] at hall
  rwa [← hall]

/-- An open leaf has a first character, which is no bracket and no connective. -/
theorem OpenLeafText.exists_cons {text : List Char} (h : OpenLeafText text) :
    ∃ c cs, text = c :: cs ∧ structural? c = none := by
  cases h with
  | inId first noStart => exact ⟨_, _, rfl, first⟩
  | inBlock first noStart noEnd => exact ⟨_, _, rfl, first⟩

/-- A leaf that is open at the end of its text has no whole leaf at its start. -/
theorem OpenLeafText.ne_append {text leaf cs : List Char} (h : OpenLeafText text)
    (hleaf : LeafText leaf) : text ≠ leaf ++ cs := by
  rintro rfl
  have hscan := scan_leaf hleaf 0 cs
  rw [scan_openLeaf h] at hscan
  cases hscan

end

/-! ## The tokens of an expression -/

/-- An expression is cut into its tokens and an open leaf, if one is left. -/
theorem exists_segments_tokens (expression : String) :
    ∃ rest, Segments 0 expression.toList (tokens expression) rest :=
  exists_segments 0 expression.toList

/-- A text that is cut into tokens has those tokens. -/
theorem tokens_eq_of_segments {expression : String} {rest : List Char} {ts : List Token}
    (h : Segments 0 expression.toList ts rest) : tokens expression = ts :=
  (eq_scan_of_segments h).symm

/-- No token of a text but the last stands for its end. -/
theorem kind_ne_stop {expression : String} {t : Token} (ht : t ∈ tokens expression) :
    t.kind ≠ .stop := by
  obtain ⟨rest, hrest⟩ := exists_segments_tokens expression
  rcases hrest.token ht with ⟨hkind, -⟩ | ⟨c, hc, -⟩
  · simp [hkind]
  · exact fun hkind => structural?_ne_stop c (hkind ▸ hc)

/-- The text of a requisite is a whole leaf. -/
theorem leafText_of_mem_tokens {expression : String} {t : Token} (ht : t ∈ tokens expression)
    (hkind : t.kind = .requisite) : LeafText t.value.toList := by
  obtain ⟨rest, hrest⟩ := exists_segments_tokens expression
  rcases hrest.token ht with ⟨-, hleaf⟩ | ⟨c, hc, -⟩
  · exact hleaf
  · exact absurd (hkind ▸ hc) (structural?_ne_requisite c)

end Requisite
