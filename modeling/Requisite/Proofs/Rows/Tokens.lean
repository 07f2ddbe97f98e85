import Mathlib.Data.List.Basic
import Requisite.Proofs.Expr.Grammar
import Requisite.Proofs.Leaf
import Requisite.Row

/-!
# Requisite rows are read back

The rows of a course page are written one after the other, with nothing between them, and their
leaves hold free text, in which brackets and connectives mean nothing. `tokenize_encodeAll` shows
that the tokens are nevertheless those that the rows write, row by row, and that each requisite
among them is read back as the leaf of its row. It is enough that every leaf is clean: it starts as
a leaf does, and no brace in it is taken for one of those around its block.

`Row.lexemes` are the tokens of one row by themselves. A clean leaf is whole wherever it stands, so
the scanner is between leaves again at the end of every lexeme, and the lexemes of all rows are cut
as the scanner cuts them (`Lexeme.segments_place`).
-/

namespace Requisite

/-! ## Lexemes -/

/-- A token wherever it stands: what it is, and the text it covers. -/
structure Lexeme where
  kind : TokenKind
  value : String
  deriving DecidableEq, Repr

/-- The token without its position. -/
def Token.lexeme (t : Token) : Lexeme :=
  ⟨t.kind, t.value⟩

namespace Lexeme

/-- The tokens of lexemes that follow one another, the first of them at `position`. -/
def place : Nat → List Lexeme → List Token
  | _, [] => []
  | position, x :: xs => ⟨x.kind, x.value, position⟩ :: place (position + x.value.length) xs

/-- The lexeme is a bracket, a connective or a whole leaf. -/
def Whole (x : Lexeme) : Prop :=
  (∃ c, structural? c = some x.kind ∧ x.value = String.singleton c) ∨
    x.kind = .requisite ∧ LeafText x.value.toList

/-- Many times one whole lexeme are whole lexemes. -/
theorem whole_of_mem_replicate {x y : Lexeme} {n : Nat} (hx : x.Whole)
    (hy : y ∈ List.replicate n x) : y.Whole := by
  rwa [List.eq_of_mem_replicate hy]

/-- An opening bracket is whole. -/
theorem whole_leftParen : Whole ⟨.leftParen, "("⟩ :=
  .inl ⟨'(', rfl, rfl⟩

/-- A closing bracket is whole. -/
theorem whole_rightParen : Whole ⟨.rightParen, ")"⟩ :=
  .inl ⟨')', rfl, rfl⟩

/-- Without their positions, the tokens are the lexemes. -/
@[simp] theorem map_lexeme_place (position : Nat) (xs : List Lexeme) :
    (place position xs).map Token.lexeme = xs := by
  induction xs generalizing position with
  | nil => rfl
  | cons x xs ih => rw [place, List.map_cons, ih, Token.lexeme]

/-- The text of brackets, connectives and whole leaves is cut into just these. -/
theorem segments_place {xs : List Lexeme} (h : ∀ x ∈ xs, x.Whole) (position : Nat) :
    Segments position (xs.flatMap fun x => x.value.toList) (place position xs) [] := by
  induction xs generalizing position with
  | nil => exact .done
  | cons x xs ih =>
    obtain ⟨kind, value⟩ := x
    have hnext := ih (fun y hy => h y (List.mem_cons_of_mem _ hy)) (position + value.length)
    rw [List.flatMap_cons, place]
    -- What follows does not matter: after the lexeme the scanner is between leaves again.
    rcases h _ List.mem_cons_self with ⟨c, hc, rfl⟩ | ⟨rfl, hleaf⟩
    · rw [String.length_singleton] at hnext ⊢
      simpa using Segments.sign hc hnext
    · rw [← String.length_toList] at hnext ⊢
      simpa using Segments.leaf hleaf hnext

end Lexeme

/-! ## Clean leaves -/

/-- The written form of the leaf says where it ends, and begins as a leaf does. -/
structure Leaf.Clean (l : Leaf) : Prop where
  /-- The leaf is named, and its id begins with no bracket and no connective. -/
  starts : l.StartsPlain
  /-- No brace in the id opens a block. -/
  noStart : blockStart ∉ l.id.toList
  /-- No brace in the grade closes the block. -/
  noEnd : blockEnd ∉ l.flags.minimumGrade.toList

namespace Leaf.Clean

variable {l : Leaf}

/-- A clean leaf is written as a whole leaf. -/
theorem leafText (h : l.Clean) : LeafText l.encode.toList := by
  obtain ⟨c, cs, hid, hfirst⟩ := h.starts
  have hnoStart : blockStart ∉ cs := fun hmem =>
    h.noStart (by rw [hid]; exact List.mem_cons_of_mem _ hmem)
  have hflag (b : Bool) : blockEnd ≠ flagChar b := by cases b <;> decide
  have hnoEnd : blockEnd ∉ l.flags.encode := by
    simpa [Flags.encode, hflag] using h.noEnd
  have htext : l.encode.toList = c :: (cs ++ blockStart :: (l.flags.encode ++ [blockEnd])) := by
    rw [Leaf.encode, String.toList_ofList, hid, List.cons_append]
  rw [htext]
  exact .mk hfirst hnoStart hnoEnd

/-- A clean leaf is read back. -/
theorem decode_encode (h : l.Clean) : Leaf.decode l.encode = .ok l := by
  obtain ⟨c, cs, hid, -⟩ := h.starts
  exact Leaf.decode_encode (by rw [hid]; exact List.cons_ne_nil _ _) h.noStart

end Leaf.Clean

/-- A connective is written by its character. -/
theorem Connective.structural?_symbol (op : Connective) :
    structural? op.symbol = some op.token := by
  cases op <;> rfl

/-! ## What the words of a row say -/

/-- A text is cut before an ending exactly when it ends so. -/
theorem Text.dropEnding?_eq_some {ending cs before : List Char} :
    Text.dropEnding? ending cs = some before ↔ before ++ ending = cs := by
  rw [Text.dropEnding?, Option.map_eq_some_iff]
  simp only [List.isPrefixOf?_eq_some_iff_append_eq]
  constructor
  · rintro ⟨rest, hrest, rfl⟩
    rw [← List.reverse_reverse cs, ← hrest, List.reverse_append, List.reverse_reverse]
  · rintro rfl
    exact ⟨before.reverse, List.reverse_append.symm, List.reverse_reverse before⟩

/-- It is not cut exactly when it does not. -/
theorem Text.dropEnding?_eq_none {ending cs : List Char} :
    Text.dropEnding? ending cs = none ↔ ¬ ending <:+ cs := by
  rw [Option.eq_none_iff_forall_ne_some]
  simp only [ne_eq, dropEnding?_eq_some]
  exact not_exists.symm

namespace Row

/-- The word of a connective at the end of a row, with the space before it. -/
def ending : Connective → List Char
  | .and => [' ', 'a', 'n', 'd']
  | .or => [' ', 'o', 'r']

/-- No text ends in both connectives. -/
theorem eq_of_ending_suffix {op op' : Connective} {cs : List Char} (h : ending op <:+ cs)
    (h' : ending op' <:+ cs) : op = op' := by
  obtain ⟨before, rfl⟩ := h
  obtain ⟨before', hcs⟩ := h'
  have hlast := congrArg List.getLast? hcs
  cases op <;> cases op' <;> simp [ending] at hlast ⊢

/-- The connective that a text is split at is the one that it ends in. -/
theorem splitConnective_snd_eq_some {text : List Char} {op : Connective} :
    (splitConnective text).2 = some op ↔ ending op <:+ text := by
  have hone {op' : Connective} (h' : ending op' <:+ text) :
      some op' = some op ↔ ending op <:+ text := by
    constructor
    · rintro ⟨⟩
      exact h'
    · intro h
      rw [eq_of_ending_suffix h' h]
  unfold splitConnective
  -- The connectives are tried one after the other, which does not matter, as no text ends in both.
  split
  next before hand => exact hone ⟨before, Text.dropEnding?_eq_some.1 hand⟩
  next hand =>
    split
    next before hor => exact hone ⟨before, Text.dropEnding?_eq_some.1 hor⟩
    next hor =>
      refine iff_of_false (by simp) ?_
      cases op with
      | and => exact Text.dropEnding?_eq_none.1 hand
      | or => exact Text.dropEnding?_eq_none.1 hor

/-- The connective of a row is the one that its words end in, the blanks around them aside. -/
theorem connective_eq_some {row : Row} {op : Connective} :
    row.parts.connective = some op ↔
      ending op <:+ Text.trimWhile Text.isBlank row.expression.toList := by
  rw [← splitConnective_snd_eq_some]
  unfold parts
  generalize splitConnective _ = split
  rfl

/-- Words name a course: before the last of them stands the name of a subject area with a code, and
the last is the catalog number. -/
def NamesCourse (index : SubjectIndex) (words : List Char) (code catalog : String) : Prop :=
  ∃ area, words = area ++ ' ' :: catalog.toList ∧ ' ' ∉ catalog.toList ∧
    index.codeFor? (String.ofList area) = some code ∧ code ≠ ""

/-- A requirement whose words name a course is that course. -/
theorem requirement_of_namesCourse {index : SubjectIndex} {core : List Char} {code catalog : String}
    (h : NamesCourse index (Text.trimWhile isBracket core) code catalog) :
    requirement index core = (courseNodeId code catalog, true) := by
  obtain ⟨area, hwords, hcatalog, hcode, hne⟩ := h
  unfold requirement
  rw [hwords]
  simp [Text.cutLast?_append hcatalog, hcode, hne]

/-- A requirement is a course exactly when its words name one. -/
theorem requirement_snd_iff {index : SubjectIndex} {core : List Char} :
    (requirement index core).2 = true ↔
      ∃ code catalog, NamesCourse index (Text.trimWhile isBracket core) code catalog := by
  constructor
  · generalize hwords : Text.trimWhile isBracket core = words
    intro h
    unfold requirement at h
    rw [hwords] at h
    dsimp only at h
    -- There is a last word to cut off, what stands before it names an area, and that has a code.
    split at h
    next area catalog hcut =>
      obtain ⟨hcs, hcatalog⟩ := Text.cutLast?_eq_some hcut
      split at h
      next code hcode =>
        split at h
        · simp at h
        next hne =>
          exact ⟨code, String.ofList catalog, area, by simpa using hcs, by simpa using hcatalog,
            hcode, by simpa using hne⟩
      · simp at h
    · simp at h
  · rintro ⟨code, catalog, h⟩
    rw [requirement_of_namesCourse h]

/-- The leaf of a row has the id that its words give it, and the attributes of the row. -/
theorem leaf_eq (index : SubjectIndex) (row : Row) :
    row.leaf index =
      { id := (requirement index row.parts.core).1
        flags :=
          { isCourse := (requirement index row.parts.core).2
            isEnforced := row.enforced
            isPrereq := row.prereq
            isCoreq := row.coreq
            minimumGrade := Text.trim row.minimumGrade } } := by
  unfold leaf
  generalize requirement index row.parts.core = named
  rfl

/-! ## The tokens of a row -/

/-- The tokens that a row writes: the brackets that open, its leaf, the brackets that close, and its
connective. -/
def lexemes (index : SubjectIndex) (row : Row) : List Lexeme :=
  List.replicate row.parts.opening ⟨.leftParen, "("⟩ ++
    ⟨.requisite, (row.leaf index).encode⟩ ::
      (List.replicate row.parts.closing ⟨.rightParen, ")"⟩ ++
        row.parts.connective.toList.map fun op => ⟨op.token, String.singleton op.symbol⟩)

/-- The written form of a row is the text of its tokens. -/
theorem toList_encode (index : SubjectIndex) (row : Row) :
    (encode index row).toList = (lexemes index row).flatMap fun x => x.value.toList := by
  have hreplicate (n : Nat) (x : Lexeme) (c : Char) (hx : x.value.toList = [c]) :
      (List.replicate n x).flatMap (fun x => x.value.toList) = List.replicate n c := by
    induction n with
    | zero => rfl
    | succ n ih => rw [List.replicate_succ, List.flatMap_cons, ih, hx, List.replicate_succ]; rfl
  have hconnective (op : Option Connective) :
      (op.toList.map fun op => (⟨op.token, String.singleton op.symbol⟩ : Lexeme)).flatMap
        (fun x => x.value.toList) = (op.map Connective.symbol).toList := by
    cases op <;> simp
  rw [encode, String.toList_ofList, lexemes, List.flatMap_append, List.flatMap_cons,
    List.flatMap_append, hreplicate _ _ '(' rfl, hreplicate _ _ ')' rfl, hconnective]
  simp

/-- The written form of all rows is the text of their tokens. -/
theorem toList_encodeAll (index : SubjectIndex) (rows : List Row) :
    (encodeAll index rows).toList =
      (rows.flatMap (lexemes index)).flatMap fun x => x.value.toList := by
  rw [encodeAll, String.toList_join, List.flatMap_map, List.flatMap_assoc]
  exact List.flatMap_congr fun row _ => toList_encode index row

/-- Each row has one requisite, its leaf. -/
theorem requisites_lexemes (index : SubjectIndex) (rows : List Row) :
    (rows.flatMap (lexemes index)).filter (fun x => x.kind = .requisite) =
      rows.map fun row => ⟨.requisite, (row.leaf index).encode⟩ := by
  have hone (row : Row) : (lexemes index row).filter (fun x => x.kind = .requisite) =
      [⟨.requisite, (row.leaf index).encode⟩] := by
    have hconnective : (row.parts.connective.toList.map fun op =>
        (⟨op.token, String.singleton op.symbol⟩ : Lexeme)).filter
          (fun x => x.kind = .requisite) = [] := by
      refine List.filter_eq_nil_iff.2 fun x hx => ?_
      obtain ⟨op, -, rfl⟩ := List.mem_map.1 hx
      cases op <;> simp [Connective.token]
    rw [lexemes, List.filter_append, List.filter_cons_of_pos rfl, List.filter_append, hconnective]
    simp
  rw [List.filter_flatMap, List.map_eq_flatMap]
  exact List.flatMap_congr fun row _ => hone row

/-- The tokens of a clean row are brackets, a whole leaf and a connective. -/
theorem whole_of_mem_lexemes {index : SubjectIndex} {row : Row} (h : (row.leaf index).Clean)
    {x : Lexeme} (hx : x ∈ lexemes index row) : x.Whole := by
  rw [lexemes, List.mem_append, List.mem_cons, List.mem_append, List.mem_map] at hx
  rcases hx with hx | rfl | hx | ⟨op, -, rfl⟩
  · exact Lexeme.whole_of_mem_replicate Lexeme.whole_leftParen hx
  · exact .inr ⟨rfl, h.leafText⟩
  · exact Lexeme.whole_of_mem_replicate Lexeme.whole_rightParen hx
  · exact .inl ⟨op.symbol, op.structural?_symbol, rfl⟩

section

variable {index : SubjectIndex} {rows : List Row} (h : ∀ row ∈ rows, (row.leaf index).Clean)

include h

/-- The tokens of clean rows are brackets, connectives and whole leaves. -/
theorem whole_lexemes : ∀ x ∈ rows.flatMap (lexemes index), x.Whole := by
  intro x hx
  obtain ⟨row, hrow, hx⟩ := List.mem_flatMap.1 hx
  exact whole_of_mem_lexemes (h row hrow) hx

/-- The tokens of clean rows are those that they write, one row after the other. -/
theorem tokens_encodeAll :
    tokens (encodeAll index rows) = Lexeme.place 0 (rows.flatMap (lexemes index)) := by
  have hcut := Lexeme.segments_place (whole_lexemes h) 0
  rw [← toList_encodeAll] at hcut
  exact tokens_eq_of_segments hcut

/-- The requisites among the tokens are read back as the leaves of the rows. -/
theorem decode_requisites :
    (((tokenize (encodeAll index rows)).filter fun t => t.kind = .requisite).map
        fun t => Leaf.decode t.value) = rows.map fun row => .ok (row.leaf index) := by
  -- Positions do not enter, and among the lexemes each row has one requisite.
  have hlexemes : (tokenize (encodeAll index rows)).map Token.lexeme =
      rows.flatMap (lexemes index) ++ [⟨.stop, "$"⟩] := by
    rw [tokenize, tokens_encodeAll h, List.map_append, Lexeme.map_lexeme_place]
    rfl
  have hrequisites : ((tokenize (encodeAll index rows)).filter fun t => t.kind = .requisite).map
      Token.lexeme = rows.map fun row => ⟨.requisite, (row.leaf index).encode⟩ := by
    calc ((tokenize (encodeAll index rows)).filter fun t => t.kind = .requisite).map Token.lexeme
        = ((tokenize (encodeAll index rows)).map Token.lexeme).filter
            fun x => x.kind = .requisite := by
          rw [List.filter_map]
          rfl
      _ = rows.map fun row => ⟨.requisite, (row.leaf index).encode⟩ := by
          rw [hlexemes, List.filter_append, requisites_lexemes]
          simp
  calc ((tokenize (encodeAll index rows)).filter fun t => t.kind = .requisite).map
        (fun t => Leaf.decode t.value)
      = (((tokenize (encodeAll index rows)).filter fun t => t.kind = .requisite).map
          Token.lexeme).map fun x => Leaf.decode x.value := by
        simp only [List.map_map, Function.comp_def, Token.lexeme]
    _ = rows.map fun row => Leaf.decode (row.leaf index).encode := by
        simp only [hrequisites, List.map_map, Function.comp_def]
    _ = rows.map fun row => .ok (row.leaf index) :=
        List.map_congr_left fun row hrow => (h row hrow).decode_encode

/-- The tokens of clean rows are, row by row, those that the row writes, and then the end of their
text. The requisites among them are read back as the leaves of the rows: each has the id that the
row's words give it, is a course exactly when the words name one, and has the attributes of its row
and the grade without the blanks around it. The connective after a row is the one that its words end
in. -/
theorem tokenize_encodeAll :
    tokenize (encodeAll index rows) =
        Lexeme.place 0 (rows.flatMap (lexemes index)) ++ [stopToken (encodeAll index rows)] ∧
      (((tokenize (encodeAll index rows)).filter fun t => t.kind = .requisite).map
          fun t => Leaf.decode t.value) =
        (rows.map fun row => .ok
          { id := (requirement index row.parts.core).1
            flags :=
              { isCourse := (requirement index row.parts.core).2
                isEnforced := row.enforced
                isPrereq := row.prereq
                isCoreq := row.coreq
                minimumGrade := Text.trim row.minimumGrade } }) ∧
      ∀ row ∈ rows,
        ((requirement index row.parts.core).2 = true ↔
          ∃ code catalog,
            NamesCourse index (Text.trimWhile isBracket row.parts.core) code catalog) ∧
        ∀ op, row.parts.connective = some op ↔
          ending op <:+ Text.trimWhile Text.isBlank row.expression.toList := by
  refine ⟨?_, ?_, fun row _ => ⟨requirement_snd_iff, fun op => connective_eq_some⟩⟩
  · rw [tokenize, tokens_encodeAll h]
  · simp only [← leaf_eq]
    exact decode_requisites h

end

/-- An index with one subject area. -/
def mathematics : SubjectIndex :=
  ⟨[{ code := "MATH", name := "Mathematics" }]⟩

/-- Two rows within one pair of brackets: a course, and a test that asks for a grade with a brace in
it. -/
def courseOrTest : List Row :=
  [{ expression := " (Mathematics 31A or", prereq := true, enforced := true },
    { expression := "Placement test (or waiver)", minimumGrade := " C(-\x7b " }]

/-- The leaves of the two rows. -/
theorem map_leaf_courseOrTest : courseOrTest.map (leaf mathematics) =
    [⟨"MATH#31A", true, true, true, false, ""⟩,
      ⟨"Placement test (or waiver", false, false, false, false, "C(-\x7b"⟩] := by
  decide +kernel

/-- Both rows are clean. -/
theorem clean_courseOrTest : ∀ row ∈ courseOrTest, (row.leaf mathematics).Clean := by
  intro row hrow
  have hleaf := List.mem_map_of_mem (f := leaf mathematics) hrow
  rw [map_leaf_courseOrTest, List.mem_pair] at hleaf
  rcases hleaf with hleaf | hleaf
  · rw [hleaf]
    exact ⟨⟨'M', _, rfl, rfl⟩, by decide, by decide⟩
  · rw [hleaf]
    exact ⟨⟨'P', _, rfl, rfl⟩, by decide, by decide⟩

/-- The brackets and braces within the two leaves are no tokens, and the course and the test are
read back with their attributes. -/
theorem tokenize_encodeAll_courseOrTest :
    (∀ row ∈ courseOrTest, (row.leaf mathematics).Clean) ∧
      tokenize (encodeAll mathematics courseOrTest) =
        [⟨.leftParen, "(", 0⟩, ⟨.requisite, "MATH#31A\x7btttf\x7d", 1⟩, ⟨.or, "|", 15⟩,
          ⟨.requisite, "Placement test (or waiver\x7bffffC(-\x7b\x7d", 16⟩,
          ⟨.rightParen, ")", 51⟩, ⟨.stop, "$", 52⟩] ∧
      (((tokenize (encodeAll mathematics courseOrTest)).filter fun t => t.kind = .requisite).map
          fun t => Leaf.decode t.value) =
        [.ok ⟨"MATH#31A", true, true, true, false, ""⟩,
          .ok ⟨"Placement test (or waiver", false, false, false, false, "C(-\x7b"⟩] := by
  obtain ⟨htokens, hleaves, -⟩ := tokenize_encodeAll clean_courseOrTest
  have hplaced : Lexeme.place 0 (courseOrTest.flatMap (lexemes mathematics)) ++
      [stopToken (encodeAll mathematics courseOrTest)] =
        [⟨.leftParen, "(", 0⟩, ⟨.requisite, "MATH#31A\x7btttf\x7d", 1⟩, ⟨.or, "|", 15⟩,
          ⟨.requisite, "Placement test (or waiver\x7bffffC(-\x7b\x7d", 16⟩,
          ⟨.rightParen, ")", 51⟩, ⟨.stop, "$", 52⟩] := by
    decide +kernel
  refine ⟨clean_courseOrTest, ?_, ?_⟩
  · rw [htokens, hplaced]
  · rw [hleaves]
    simp only [← leaf_eq]
    exact congrArg (List.map Except.ok) map_leaf_courseOrTest

end Row

end Requisite
