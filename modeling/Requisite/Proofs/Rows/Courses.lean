import Mathlib.Data.List.Basic
import Requisite.Proofs.Expr.Reading
import Requisite.Proofs.Rows.Balance
import Requisite.Proofs.Rows.Brackets

/-!
# Rows that name a course

A requirement in words is a course where the words before the last one are the name of a subject
area, which pairs of code and name list. Of two pairs with one name the first counts, and a pair
without code or name lists nothing (`SubjectIndex.Lists`).

The leaf of such a row carries the code and the last word, joined into one id, and the expression
takes the id apart again. Between the two stands the text of all rows. A row whose words are all
brackets writes a leaf without an id, which the scanner does not end where the row does, but then no
expression is read, unless the row is the last and its leaf is left open
(`Row.exists_token_of_plain`). So in an expression that is read, every named row has its leaf, and
the course of a row is among the courses of the graph (`Row.courses_ofPairs`).
-/

namespace Requisite

namespace SubjectIndex

/-! ## Looking up a name -/

/-- The pair lists a subject area of this name, blanks around it aside. A blank name or code lists
nothing. -/
def Lists (pair : Option String × Option String) (name : String) : Prop :=
  Text.trim (pair.2.getD "") = name ∧ name ≠ "" ∧ Text.trim (pair.1.getD "") ≠ ""

/-- Whether it does can be decided by comparing texts. -/
instance decidableLists (pair : Option String × Option String) (name : String) :
    Decidable (Lists pair name) :=
  inferInstanceAs (Decidable (_ ∧ _ ∧ _))

/-- The subject area of a pair that lists one is its code and name, without blanks around them. -/
theorem area?_of_lists {pair : Option String × Option String} {name : String}
    (h : Lists pair name) :
    area? pair.1 pair.2 = some { code := Text.trim (pair.1.getD ""), name := name } := by
  obtain ⟨hname, hne, hcode⟩ := h
  unfold area?
  rw [hname]
  simp [hne, hcode]

/-- A pair has a subject area of a name exactly when it lists one. -/
theorem lists_iff {pair : Option String × Option String} {name : String} :
    Lists pair name ↔ ∃ area, area? pair.1 pair.2 = some area ∧ area.name = name := by
  constructor
  · intro h
    exact ⟨_, area?_of_lists h, rfl⟩
  · rintro ⟨area, harea, rfl⟩
    unfold area? at harea
    dsimp only at harea
    split at harea
    · simp at harea
    next hne =>
      obtain rfl := Option.some.inj harea
      obtain ⟨hcode, hname⟩ := not_or.1 (by simpa using hne)
      exact ⟨rfl, hname, hcode⟩

/-- The code for a name is that of the first pair that lists it. -/
theorem codeFor?_ofPairs (pairs : List (Option String × Option String)) (name : String) :
    (ofPairs pairs).codeFor? name =
      (pairs.find? fun pair => Lists pair (Text.trim name)).map
        fun pair => Text.trim (pair.1.getD "") := by
  have hlists (pair : Option String × Option String) :
      (area? pair.1 pair.2).any (fun area => area.name = Text.trim name) =
        decide (Lists pair (Text.trim name)) := by
    rw [Bool.eq_iff_iff, decide_eq_true_iff, lists_iff, Option.any_eq_true]
    simp
  unfold codeFor? ofPairs
  rw [find?_firsts, List.find?_filterMap]
  simp only [hlists]
  cases hfound : pairs.find? fun pair => Lists pair (Text.trim name) with
  | none => rfl
  | some pair =>
    have hpair : Lists pair (Text.trim name) := by simpa using List.find?_some hfound
    simp [area?_of_lists hpair]

end SubjectIndex

/-! ## Plain leaves -/

/-- The written form of the leaf begins with no bracket and no connective, and no brace in it is
taken for one of those around its block. Unlike a clean leaf it may have no id. -/
structure Leaf.Plain (l : Leaf) : Prop where
  /-- The id begins with no bracket and no connective. -/
  starts : PlainStart l.id
  /-- No brace in the id opens a block. -/
  noStart : blockStart ∉ l.id.toList
  /-- No brace in the grade closes the block. -/
  noEnd : blockEnd ∉ l.flags.minimumGrade.toList

/-- With an id it is clean. -/
theorem Leaf.Plain.clean {l : Leaf} (h : l.Plain) (hid : l.id ≠ "") : l.Clean where
  starts := by
    obtain ⟨c, cs, hcs⟩ := List.exists_cons_of_ne_nil (mt String.toList_eq_nil_iff.1 hid)
    exact ⟨c, cs, hcs, h.starts c (by rw [hcs]; rfl)⟩
  noStart := h.noStart
  noEnd := h.noEnd

/-- The block of a written leaf opens before it is closed. -/
theorem Leaf.braces_sublist_encode (l : Leaf) :
    [blockStart, blockEnd].Sublist l.encode.toList := by
  rw [Leaf.encode, String.toList_ofList]
  have hclosed : [blockEnd].Sublist (l.flags.encode ++ [blockEnd]) := List.sublist_append_right _ _
  exact (hclosed.cons_cons blockStart).trans (List.sublist_append_right _ _)

/-- No leaf that is open has a block within it. -/
theorem OpenLeafText.not_braces_sublist {c : Char} {cs : List Char} (h : OpenLeafText (c :: cs)) :
    ¬ [blockStart, blockEnd].Sublist cs := by
  intro hsub
  cases h with
  | inId first noStart => exact noStart (hsub.subset List.mem_cons_self)
  | @inBlock c id block first noStart noEnd =>
    obtain ⟨xs, ys, hxs, hid, hblock⟩ := List.sublist_append_iff.1 hsub
    -- Nothing of the two braces is in the id, so the closing one is in the block.
    cases xs with
    | nil =>
      obtain rfl : [blockStart, blockEnd] = ys := hxs
      exact noEnd (List.singleton_sublist.1 (List.cons_sublist_cons.1 hblock))
    | cons x xs =>
      obtain rfl : blockStart = x := (List.cons.inj hxs).1
      exact noStart (hid.subset List.mem_cons_self)

/-- Text that begins with a brace is an open leaf, if every requisite in it writes a leaf: a whole
one would have no id. -/
theorem openLeafText_of_decode {position : Nat} {cs : List Char}
    (h : ∀ t ∈ scan .between position (blockStart :: cs),
      t.kind = .requisite → ∃ l, Leaf.decode t.value = .ok l) :
    OpenLeafText (blockStart :: cs) := by
  have hfirst : structural? blockStart = none := by decide
  refine (openLeaf_or_leaf hfirst cs).resolve_right ?_
  rintro ⟨text, after, htext, hleaf⟩
  rw [htext, scan_leaf hleaf] at h
  obtain ⟨l, hl⟩ := h _ List.mem_cons_self rfl
  obtain ⟨block, hblock, hne, hnoStart, -⟩ := Leaf.decode_eq_ok hl
  obtain ⟨c, id, hid⟩ := List.exists_cons_of_ne_nil hne
  rw [String.toList_ofList, hid] at hblock
  -- The id would begin with the brace that the text begins with.
  have hc : blockStart = c := by
    rw [hblock] at htext
    exact (List.cons.inj htext).1
  rw [hid, ← hc] at hnoStart
  exact hnoStart List.mem_cons_self

namespace Lexeme

/-- Each lexeme has its token. -/
theorem exists_mem_place {xs : List Lexeme} {x : Lexeme} (h : x ∈ xs) (position : Nat) :
    ∃ t ∈ place position xs, t.lexeme = x := by
  rw [← map_lexeme_place position xs] at h
  exact List.mem_map.1 h

/-- Whole lexemes at the start of a text are its first tokens, whatever follows. -/
theorem exists_scan_append {xs : List Lexeme} (h : ∀ x ∈ xs, x.Whole) (position : Nat)
    (cs : List Char) :
    ∃ next, scan .between position ((xs.flatMap fun x => x.value.toList) ++ cs) =
      place position xs ++ scan .between next cs := by
  obtain ⟨rest, hrest⟩ := exists_segments
    (position + (xs.flatMap fun x => x.value.toList).length) cs
  exact ⟨_, (eq_scan_of_segments ((segments_place h position).append hrest)).symm⟩

end Lexeme

namespace Row

/-! ## The leaves of plain rows -/

/-- The text that the rows write. -/
def text (index : SubjectIndex) (rows : List Row) : List Char :=
  (rows.flatMap (lexemes index)).flatMap fun x => x.value.toList

section

variable {index : SubjectIndex} {rows : List Row} {row : Row}

/-- The leaf of a row is one of its lexemes. -/
theorem leaf_mem_lexemes (index : SubjectIndex) (row : Row) :
    ⟨.requisite, (row.leaf index).encode⟩ ∈ lexemes index row := by
  rw [lexemes]
  exact List.mem_append_right _ List.mem_cons_self

/-- The leaf of each row is in the text of all. -/
theorem encode_leaf_sublist (h : row ∈ rows) :
    (row.leaf index).encode.toList.Sublist (text index rows) := by
  have hlexeme := List.mem_flatMap.2 ⟨row, h, leaf_mem_lexemes index row⟩
  exact List.sublist_flatten_of_mem (List.mem_map_of_mem (f := fun x => x.value.toList) hlexeme)

/-- The text of the first row comes before that of the others. -/
theorem text_cons (index : SubjectIndex) (row : Row) (rows : List Row) :
    text index (row :: rows) =
      ((lexemes index row).flatMap fun x => x.value.toList) ++ text index rows := by
  rw [text, List.flatMap_cons, List.flatMap_append]
  rfl

/-- A row without an id writes brackets and then a brace. -/
theorem exists_text_cons (hid : (row.leaf index).id = "") (rows : List Row) :
    ∃ cs, text index (row :: rows) =
        ((List.replicate row.parts.opening (⟨.leftParen, "("⟩ : Lexeme)).flatMap
          fun x => x.value.toList) ++ blockStart :: cs ∧
      (text index rows).Sublist cs := by
  have hleaf : (row.leaf index).encode.toList =
      blockStart :: ((row.leaf index).flags.encode ++ [blockEnd]) := by
    rw [Leaf.encode, String.toList_ofList, hid]
    rfl
  rw [text_cons, lexemes, List.flatMap_append, List.flatMap_cons, hleaf, List.append_assoc,
    List.append_assoc, List.cons_append]
  exact ⟨_, rfl, (List.sublist_append_right _ _).trans (List.sublist_append_right _ _)⟩

/-- If every requisite that the scanner finds in the text of plain rows writes a leaf, it finds that
of every row with an id. -/
theorem exists_token_of_plain (h : ∀ row ∈ rows, (row.leaf index).Plain) {position : Nat}
    (hleaves : ∀ t ∈ scan .between position (text index rows),
      t.kind = .requisite → ∃ l, Leaf.decode t.value = .ok l)
    (hrow : row ∈ rows) (hid : (row.leaf index).id ≠ "") :
    ∃ t ∈ scan .between position (text index rows),
      t.lexeme = ⟨.requisite, (row.leaf index).encode⟩ := by
  induction rows generalizing position with
  | nil => simp at hrow
  | cons first rows ih =>
    obtain ⟨hfirst, hrows⟩ := List.forall_mem_cons.1 h
    by_cases hnamed : (first.leaf index).id = ""
    · -- The leaf without an id is open up to the end, so no other row can follow.
      obtain ⟨cs, htext, hsub⟩ := exists_text_cons hnamed rows
      obtain ⟨next, hscan⟩ := Lexeme.exists_scan_append
        (fun x hx => Lexeme.whole_of_mem_replicate Lexeme.whole_leftParen hx) position
        (blockStart :: cs)
      rw [htext, hscan] at hleaves
      have hopen := openLeafText_of_decode fun t ht => hleaves t (List.mem_append_right _ ht)
      rcases List.mem_cons.1 hrow with rfl | hrow
      · exact absurd hnamed hid
      · exact absurd (((Leaf.braces_sublist_encode _).trans (encode_leaf_sublist hrow)).trans hsub)
          hopen.not_braces_sublist
    · -- A leaf with an id ends where the row does, and the other rows are scanned by themselves.
      have hwhole : ∀ x ∈ lexemes index first, x.Whole := fun x hx =>
        whole_of_mem_lexemes (hfirst.clean hnamed) hx
      obtain ⟨next, hscan⟩ := Lexeme.exists_scan_append hwhole position (text index rows)
      rw [text_cons, hscan] at hleaves ⊢
      rcases List.mem_cons.1 hrow with rfl | hrow
      · obtain ⟨t, ht, hlexeme⟩ :=
          Lexeme.exists_mem_place (leaf_mem_lexemes index row) position
        exact ⟨t, List.mem_append_left _ ht, hlexeme⟩
      · obtain ⟨t, ht, hlexeme⟩ :=
          ih hrows (fun t ht => hleaves t (List.mem_append_right _ ht)) hrow
        exact ⟨t, List.mem_append_right _ ht, hlexeme⟩

/-- The tree of plain rows has the leaf of every row with an id. -/
theorem leaf_mem_leaves (h : ∀ row ∈ rows, (row.leaf index).Plain) {d : Derivation}
    (hd : Derives .expression (tokens (encodeAll index rows)) [d]) (hrow : row ∈ rows)
    (hid : (row.leaf index).id ≠ "") : row.leaf index ∈ d.leaves := by
  have hleaves {t : Token} (ht : t ∈ tokens (encodeAll index rows)) (hkind : t.kind = .requisite) :
      ∃ l ∈ d.leaves, Leaf.decode t.value = .ok l := by
    simpa [Derivation.leavesOf] using hd.exists_leaf ht hkind
  have hscan : tokens (encodeAll index rows) = scan .between 0 (text index rows) := by
    rw [tokens, toList_encodeAll, text]
  obtain ⟨t, ht, hlexeme⟩ := exists_token_of_plain h
    (fun t ht hkind => by
      obtain ⟨l, -, hl⟩ := hleaves (by rwa [hscan]) hkind
      exact ⟨l, hl⟩) hrow hid
  obtain ⟨hkind, hvalue⟩ := Lexeme.mk.inj hlexeme
  obtain ⟨l, hl, hdecode⟩ := hleaves (by rwa [hscan]) hkind
  rw [hvalue, ((h row hrow).clean hid).decode_encode] at hdecode
  rwa [Except.ok.inj hdecode]

end

/-! ## The course of a row -/

/-- The words of a row without the brackets and spaces at their ends. -/
def bareWords (row : Row) : List Char :=
  Text.trimWhile isBracket row.words

/-- The bare words of a row are those of its core. -/
theorem trimWhile_core (row : Row) :
    Text.trimWhile isBracket row.parts.core = row.bareWords := by
  have hopening : ∀ c ∈ row.words.takeWhile isOpening, isBracket c := by
    intro c hc
    rw [isBracket, List.mem_takeWhile_imp hc, Bool.true_or]
  have hclosing : ∀ c ∈ ((row.words.dropWhile isOpening).reverse.takeWhile isClosing).reverse,
      isBracket c := by
    intro c hc
    rw [isBracket, List.mem_takeWhile_imp (List.mem_reverse.1 hc), Bool.or_true]
  rw [bareWords, words_eq row, Text.trimWhile_append hopening hclosing]

/-- By pairs of code and name, words name a course: before the last of them stands the name of a
subject area, the first pair that lists it has the code, and the last word is the catalog number. -/
def NamesCourseBy (pairs : List (Option String × Option String)) (words : List Char)
    (code catalog : String) : Prop :=
  ∃ area pair, words = area ++ ' ' :: catalog.toList ∧ ' ' ∉ catalog.toList ∧
    pairs.find? (fun p => SubjectIndex.Lists p (Text.trim (String.ofList area))) = some pair ∧
    Text.trim (pair.1.getD "") = code

section

variable {pairs : List (Option String × Option String)} {words : List Char} {code catalog : String}

/-- So they do by the index over these pairs. -/
theorem namesCourse_ofPairs :
    NamesCourse (.ofPairs pairs) words code catalog ↔ NamesCourseBy pairs words code catalog := by
  unfold NamesCourse NamesCourseBy
  simp only [SubjectIndex.codeFor?_ofPairs, Option.map_eq_some_iff]
  constructor
  · rintro ⟨area, hwords, hcatalog, ⟨pair, hpair, hcode⟩, -⟩
    exact ⟨area, pair, hwords, hcatalog, hpair, hcode⟩
  · rintro ⟨area, pair, hwords, hcatalog, hpair, rfl⟩
    have hlists : SubjectIndex.Lists pair (Text.trim (String.ofList area)) := by
      simpa using List.find?_some hpair
    exact ⟨area, hwords, hcatalog, ⟨pair, hpair, rfl⟩, hlists.2.2⟩

/-- Words name some course exactly when any pair lists the name before the last of them. -/
theorem exists_namesCourseBy_iff :
    (∃ code catalog, NamesCourseBy pairs words code catalog) ↔
      ∃ area catalog : List Char, words = area ++ ' ' :: catalog ∧ ' ' ∉ catalog ∧
        ∃ pair ∈ pairs, SubjectIndex.Lists pair (Text.trim (String.ofList area)) := by
  constructor
  · rintro ⟨code, catalog, area, pair, hwords, hcatalog, hpair, -⟩
    exact ⟨area, catalog.toList, hwords, hcatalog, pair, List.mem_of_find?_eq_some hpair,
      by simpa using List.find?_some hpair⟩
  · rintro ⟨area, catalog, hwords, hcatalog, pair, hmem, hlists⟩
    have hfound : (pairs.find? fun p =>
        SubjectIndex.Lists p (Text.trim (String.ofList area))).isSome :=
      List.find?_isSome.2 ⟨pair, hmem, decide_eq_true hlists⟩
    obtain ⟨first, hfirst⟩ := Option.isSome_iff_exists.1 hfound
    exact ⟨_, String.ofList catalog, area, first, by simpa using hwords, by simpa using hcatalog,
      hfirst, rfl⟩

variable {row : Row}

/-- A row whose words name a course has the leaf of that course. -/
theorem leaf_of_namesCourseBy (h : NamesCourseBy pairs row.bareWords code catalog) :
    (row.leaf (.ofPairs pairs)).id = courseNodeId code catalog ∧
      (row.leaf (.ofPairs pairs)).flags.isCourse = true := by
  rw [← trimWhile_core, ← namesCourse_ofPairs] at h
  rw [leaf_eq, requirement_of_namesCourse h]
  exact ⟨rfl, rfl⟩

/-- Neither its code nor its catalog number is empty. -/
theorem ne_empty_of_namesCourseBy (h : NamesCourseBy pairs row.bareWords code catalog) :
    code ≠ "" ∧ catalog ≠ "" := by
  constructor
  · obtain ⟨area, -, -, -, hcode⟩ := namesCourse_ofPairs.2 h
    exact hcode
  · rintro rfl
    -- Otherwise the words would end in a space.
    obtain ⟨area, pair, hwords, -⟩ := h
    have hlast : ' ' ∈ row.bareWords.getLast? := by
      rw [hwords]
      simp
    exact absurd (Text.getLast?_trimWhile hlast) (by decide)

/-- The leaf of a row is marked as a course exactly when some pair lists the name before the last of
its words. If it is, the leaf is that of the code that the first such pair has, with the last word
as catalog number. If the code has no number sign, every graph of plain rows with this row among
them has the course and its node. -/
theorem courses_ofPairs (pairs : List (Option String × Option String)) (row : Row) :
    ((row.leaf (.ofPairs pairs)).flags.isCourse = true ↔
      ∃ area catalog : List Char, row.bareWords = area ++ ' ' :: catalog ∧ ' ' ∉ catalog ∧
        ∃ pair ∈ pairs, SubjectIndex.Lists pair (Text.trim (String.ofList area))) ∧
    ∀ code catalog, NamesCourseBy pairs row.bareWords code catalog →
      (row.leaf (.ofPairs pairs)).id = courseNodeId code catalog ∧
      ('#' ∉ code.toList → ∀ rows, row ∈ rows →
        (∀ row ∈ rows, (row.leaf (.ofPairs pairs)).Plain) → ∀ owner g,
          Graph.ofText owner (encodeAll (.ofPairs pairs) rows) = .ok g →
          { subject := code, catalog := catalog } ∈ g.courses ∧
            ⟨courseNodeId code catalog, .value⟩ ∈ g.nodes) := by
  refine ⟨?_, fun code catalog hnames => ?_⟩
  · rw [leaf_eq, ← exists_namesCourseBy_iff, ← trimWhile_core]
    simp only [← namesCourse_ofPairs]
    exact requirement_snd_iff
  · obtain ⟨hid, hcourse⟩ := leaf_of_namesCourseBy hnames
    obtain ⟨hcode, hcatalog⟩ := ne_empty_of_namesCourseBy hnames
    refine ⟨hid, fun hsign rows hrow hplain owner g hg => ?_⟩
    have hnamed : (row.leaf (.ofPairs pairs)).id ≠ "" := by
      rw [hid]
      simp [courseNodeId]
    have hrows : rows ≠ [] := List.ne_nil_of_mem hrow
    obtain ⟨d, hd, rfl⟩ := (Graph.ofText_eq_ok_iff (encodeAll_ne_empty hrows)).1 hg
    have hreading := d.reading_graph owner fun _ hl => hd.startsPlain hl
    have hleaf := leaf_mem_leaves hplain hd hrow hnamed
    refine ⟨(hreading.courses _).2 ⟨_, hleaf, ?_⟩, (hreading.nodes _).2 (.inl ⟨_, hleaf, ?_⟩)⟩
    · exact Leaf.course?_of_id_eq hcourse hid hsign hcode hcatalog
    · rw [hid]

end

/-- Pairs of code and name, of which the first has no code and the last comes too late. -/
def listings : List (Option String × Option String) :=
  [(none, some "Mathematics"), (some "MATH ", some " Mathematics"),
    (some "MATHS", some "Mathematics")]

/-- They list one subject area. -/
theorem ofPairs_listings : SubjectIndex.ofPairs listings = mathematics := by
  decide +kernel

/-- The expression of the course and the test is read. -/
theorem exists_derives_courseOrTest :
    ∃ d, Derives .expression (tokens (encodeAll mathematics courseOrTest)) [d] := by
  have htokens : tokens (encodeAll mathematics courseOrTest) =
      [⟨.leftParen, "(", 0⟩, ⟨.requisite, "MATH#31A\x7btttf\x7d", 1⟩, ⟨.or, "|", 15⟩,
        ⟨.requisite, "Placement test (or waiver\x7bffffC(-\x7b\x7d", 16⟩,
        ⟨.rightParen, ")", 51⟩] := by
    decide +kernel
  have hcourse : Derives .term [⟨.requisite, "MATH#31A\x7btttf\x7d", 1⟩]
      [.chain .and (.leaf ⟨"MATH#31A", true, true, true, false, ""⟩) []] :=
    @Derives.lone .and _ _ (.leaf rfl rfl)
  have htest : Derives .term [⟨.requisite, "Placement test (or waiver\x7bffffC(-\x7b\x7d", 16⟩]
      [.chain .and (.leaf ⟨"Placement test (or waiver", false, false, false, false, "C(-\x7b"⟩)
        []] :=
    @Derives.lone .and _ _ (.leaf rfl rfl)
  have hor := @Derives.chain .or _ _ _ _ hcourse
    (@Derives.more .or ⟨.or, "|", 15⟩ _ _ _ _ rfl htest .none)
  rw [htokens]
  exact ⟨_, .ofFactor (@Derives.group ⟨.leftParen, "(", 0⟩ ⟨.rightParen, ")", 51⟩ _ _ rfl hor rfl)⟩

/-- The name before `31A` is listed first by the second pair, and the graph has its course. -/
theorem courses_ofPairs_courseOrTest :
    ∃ row ∈ courseOrTest, NamesCourseBy listings row.bareWords "MATH" "31A" ∧
      '#' ∉ "MATH".toList ∧ (∀ row ∈ courseOrTest, (row.leaf (.ofPairs listings)).Plain) ∧
      ∃ g, Graph.ofText "C" (encodeAll (.ofPairs listings) courseOrTest) = .ok g ∧
        { subject := "MATH", catalog := "31A" } ∈ g.courses ∧ ⟨"MATH#31A", .value⟩ ∈ g.nodes := by
  have hrow := List.mem_cons_self (a := courseOrTest[0]) (l := courseOrTest.tail)
  have hnames : NamesCourseBy listings (bareWords courseOrTest[0]) "MATH" "31A" := by
    refine ⟨"Mathematics".toList, (some "MATH ", some " Mathematics"), ?_⟩
    decide +kernel
  have hsign : '#' ∉ "MATH".toList := by decide
  have hplain : ∀ row ∈ courseOrTest, (row.leaf (.ofPairs listings)).Plain := by
    intro row hrow
    rw [ofPairs_listings]
    have hclean := clean_courseOrTest row hrow
    exact ⟨hclean.starts.plainStart, hclean.noStart, hclean.noEnd⟩
  obtain ⟨d, hd⟩ := exists_derives_courseOrTest
  rw [← ofPairs_listings] at hd
  have hg := hd.ofText_eq_ok "C"
  obtain ⟨-, hcourses⟩ := courses_ofPairs listings courseOrTest[0]
  obtain ⟨-, hall⟩ := hcourses "MATH" "31A" hnames
  exact ⟨_, hrow, hnames, hsign, hplain, _, hg, hall hsign courseOrTest hrow hplain "C" _ hg⟩

end Row

end Requisite
