import Mathlib.Data.List.TakeWhile
import Requisite.Proofs.Rows.Balance

/-!
# Brackets of a row and of its requirement

A row is searched for brackets from both ends, spaces aside, up to the first other character. So
which brackets group the requirement, and which are part of its name, is not asked: those inside the
name stay there, but those that the name begins or ends with are counted as if they grouped it.

Where the brackets of the words match, the row therefore opens as many as it closes exactly when the
name begins with as many opening brackets as it ends in closing ones (`Row.brackets_of_matched`).
A name that ends in an abbreviation in brackets does not, and its row closes a bracket that it has
not opened (`Row.overcloses_diagnosticTest`).
-/

namespace Requisite

namespace Text

/-! ## Matching brackets -/

/-- The brackets of a text match. -/
structure Matched (cs : List Char) : Prop where
  /-- No start of the text closes more brackets than it opens. -/
  nonneg : ∀ start ∈ cs.inits, start.count ')' ≤ start.count '('
  /-- No bracket is left open. -/
  closed : cs.count '(' = cs.count ')'

/-- Whether they match can be decided by looking at all starts. -/
instance decidableMatched (cs : List Char) : Decidable (Matched cs) :=
  decidable_of_iff ((∀ start ∈ cs.inits, start.count ')' ≤ start.count '(') ∧
      cs.count '(' = cs.count ')')
    ⟨fun ⟨hnonneg, hclosed⟩ => ⟨hnonneg, hclosed⟩, fun h => ⟨h.nonneg, h.closed⟩⟩

/-! ## Both ends of a text -/

variable {p : Char → Bool} {cs : List Char} {c : Char}

/-- A character outside the class ends the start of a text that lies in it, whatever follows. -/
theorem takeWhile_append_of_mem (hc : c ∈ cs) (hp : p c = false) (ds : List Char) :
    (cs ++ ds).takeWhile p = cs.takeWhile p := by
  rw [List.takeWhile_append, if_neg]
  intro hlength
  have hall : cs.takeWhile p = cs := (List.takeWhile_prefix p).eq_of_length hlength
  rw [← hall] at hc
  rw [List.mem_takeWhile_imp hc] at hp
  contradiction

/-- A character outside the class is kept when the start is dropped. -/
theorem mem_dropWhile (hc : c ∈ cs) (hp : p c = false) : c ∈ cs.dropWhile p := by
  rw [← List.takeWhile_append_dropWhile (p := p) (l := cs), List.mem_append] at hc
  refine hc.resolve_left fun htake => ?_
  rw [List.mem_takeWhile_imp htake] at hp
  contradiction

end Text

namespace Row

/-! ## Brackets at the ends -/

/-- The words of a row, without the connective and the blanks around them. -/
def words (row : Row) : List Char :=
  Text.trimWhile Text.isBlank
    (splitConnective (Text.trimWhile Text.isBlank row.expression.toList)).1

/-- How many brackets a text begins with, spaces aside. -/
def leading (cs : List Char) : Nat :=
  (cs.takeWhile isOpening).count '('

/-- How many brackets a text ends in, spaces aside. -/
def trailing (cs : List Char) : Nat :=
  (cs.reverse.takeWhile isClosing).count ')'

/-- A row opens the brackets that its words begin with. -/
theorem opening_eq (row : Row) : row.parts.opening = leading row.words := by
  unfold parts words
  generalize splitConnective _ = split
  rfl

/-- Its core is left when the ends of its words are dropped. -/
theorem core_eq (row : Row) :
    row.parts.core = Text.dropRightWhile isClosing (row.words.dropWhile isOpening) := by
  unfold parts words
  generalize splitConnective _ = split
  rfl

/-- It closes the brackets that its words end in after the start is dropped. -/
theorem closing_eq (row : Row) :
    row.parts.closing = trailing (row.words.dropWhile isOpening) := by
  have hdrop : row.parts.closing =
      ((row.words.dropWhile isOpening).drop row.parts.core.length).count ')' := by
    unfold parts words
    generalize splitConnective _ = split
    rfl
  -- What is dropped after the core is the end of the text.
  have hend := Text.dropRightWhile_append_takeWhile isClosing (row.words.dropWhile isOpening)
  rw [← core_eq] at hend
  rw [hdrop, trailing]
  nth_rewrite 1 [← hend]
  rw [List.drop_left, List.count_reverse]

/-- Opening brackets and spaces have no closing bracket among them. -/
theorem count_closing_eq_zero {cs : List Char} (h : ∀ c ∈ cs, isOpening c) :
    cs.count ')' = 0 := by
  refine List.count_eq_zero.2 fun hmem => ?_
  simpa [isOpening] using h _ hmem

/-- Closing brackets and spaces have no opening bracket among them. -/
theorem count_opening_eq_zero {cs : List Char} (h : ∀ c ∈ cs, isClosing c) :
    cs.count '(' = 0 := by
  refine List.count_eq_zero.2 fun hmem => ?_
  simpa [isClosing] using h _ hmem

/-- The words are the core with what is dropped before it and after it. -/
theorem words_eq (row : Row) :
    row.words = row.words.takeWhile isOpening ++ row.parts.core ++
      ((row.words.dropWhile isOpening).reverse.takeWhile isClosing).reverse := by
  rw [List.append_assoc, core_eq, Text.dropRightWhile_append_takeWhile,
    List.takeWhile_append_dropWhile]

/-- The brackets of a row and those of its core are the brackets of its words. -/
theorem count_words (row : Row) :
    row.words.count '(' = row.parts.opening + row.parts.core.count '(' ∧
      row.words.count ')' = row.parts.core.count ')' + row.parts.closing := by
  have hcount (c : Char) := congrArg (List.count c) (words_eq row)
  rw [opening_eq, closing_eq, leading, trailing]
  -- Only opening brackets are dropped at the start, and only closing ones at the end.
  have hopening : (row.words.takeWhile isOpening).count ')' = 0 :=
    count_closing_eq_zero fun c hc => List.mem_takeWhile_imp hc
  have hclosing : ((row.words.dropWhile isOpening).reverse.takeWhile isClosing).count '(' = 0 :=
    count_opening_eq_zero fun c hc => List.mem_takeWhile_imp hc
  constructor
  · rw [hcount, List.count_append, List.count_append, List.count_reverse, hclosing, Nat.add_zero]
  · rw [hcount, List.count_append, List.count_append, List.count_reverse, hopening, Nat.zero_add]

/-! ## Grouping brackets and names -/

section

variable {cs : List Char} {c : Char}

/-- A character that is no bracket and no space ends both searches. -/
theorem isBracket_eq_false (hc : isBracket c = false) :
    isOpening c = false ∧ isClosing c = false := by
  simpa [isBracket] using hc

/-- Brackets and spaces that open are counted before a text that has such a character. -/
theorem leading_append {before : List Char} (hbefore : ∀ c ∈ before, isOpening c) (hmem : c ∈ cs)
    (hc : isBracket c = false) (after : List Char) :
    leading (before ++ cs ++ after) = before.count '(' + leading cs := by
  have hcs := Text.takeWhile_append_of_mem hmem (isBracket_eq_false hc).1 after
  rw [leading, leading, List.append_assoc, List.takeWhile_append_of_pos hbefore, hcs,
    List.count_append]

/-- Those that close are counted after it. -/
theorem trailing_append {after : List Char} (hafter : ∀ c ∈ after, isClosing c) (hmem : c ∈ cs)
    (hc : isBracket c = false) (before : List Char) :
    trailing (before ++ cs ++ after) = after.count ')' + trailing cs := by
  have hcs := Text.takeWhile_append_of_mem (List.mem_reverse.2 hmem) (isBracket_eq_false hc).2
    before.reverse
  have hreverse : ∀ c ∈ after.reverse, isClosing c := fun c hc => hafter c (List.mem_reverse.1 hc)
  rw [trailing, trailing, List.reverse_append, List.reverse_append,
    List.takeWhile_append_of_pos hreverse, hcs, List.count_append, List.count_reverse]

/-- Where the words have such a character, a row closes the brackets that they end in. -/
theorem closing_eq_trailing {row : Row} (hmem : c ∈ row.words) (hc : isBracket c = false) :
    row.parts.closing = trailing row.words := by
  have hstart := List.takeWhile_append_dropWhile (p := isOpening) (l := row.words)
  have hkept : c ∈ row.words.dropWhile isOpening :=
    Text.mem_dropWhile hmem (isBracket_eq_false hc).1
  have hnothing : ∀ c ∈ ([] : List Char), isClosing c := by simp
  have happend := trailing_append hnothing hkept hc (row.words.takeWhile isOpening)
  rw [List.append_nil, hstart, List.count_nil, Nat.zero_add] at happend
  rw [closing_eq, happend]

end

/-- The words of a row can be read as the name `name`, within the grouping brackets `before` and
`after`. In general they can be read in several ways. -/
structure Reads (row : Row) (before name after : List Char) : Prop where
  /-- Grouping brackets and the name are all the words. -/
  words : row.words = before ++ name ++ after
  /-- Only brackets that open stand before the name, and spaces. -/
  opening : ∀ c ∈ before, isOpening c
  /-- Only brackets that close stand after it, and spaces. -/
  closing : ∀ c ∈ after, isClosing c
  /-- The name may have brackets of its own, which match. -/
  matched : Text.Matched name
  /-- It has another character. -/
  named : ∃ c ∈ name, isBracket c = false

/-- In any reading, the brackets of a row are the grouping ones and those at the ends of the
name. -/
theorem Reads.brackets {row : Row} {before name after : List Char}
    (h : row.Reads before name after) :
    row.parts.opening = before.count '(' + leading name ∧
      row.parts.closing = after.count ')' + trailing name := by
  obtain ⟨c, hmem, hc⟩ := h.named
  constructor
  · rw [opening_eq, h.words, leading_append h.opening hmem hc]
  · have hwords : c ∈ row.words := by
      rw [h.words]
      simp [hmem]
    rw [closing_eq_trailing hwords hc, h.words, trailing_append h.closing hmem hc]

/-- If the brackets of the words match, there are as many grouping brackets on either side. -/
theorem Reads.count_eq {row : Row} {before name after : List Char}
    (h : row.Reads before name after) (hmatched : Text.Matched row.words) :
    before.count '(' = after.count ')' := by
  have hbefore : before.count ')' = 0 := count_closing_eq_zero h.opening
  have hafter : after.count '(' = 0 := count_opening_eq_zero h.closing
  have hclosed := hmatched.closed
  have hname := h.matched.closed
  rw [h.words] at hclosed
  simp only [List.count_append] at hclosed
  omega

/-- A name that begins and ends in other characters is the core, whatever brackets are inside. -/
theorem Reads.core_eq {row : Row} {before name after : List Char}
    (h : row.Reads before name after) (hfirst : ∀ c ∈ name.head?, isOpening c = false)
    (hlast : ∀ c ∈ name.getLast?, isClosing c = false) : row.parts.core = name := by
  have hne : name ≠ [] := by
    rintro rfl
    simpa using h.named
  have hstart : row.words.dropWhile isOpening = name ++ after := by
    obtain ⟨c, cs, rfl⟩ := List.exists_cons_of_ne_nil hne
    have hc : isOpening c = false := hfirst c rfl
    rw [h.words, List.append_assoc, List.dropWhile_append_of_pos h.opening, List.cons_append,
      List.dropWhile_cons_of_neg (by simp [hc])]
  have hend : Text.dropRightWhile isClosing (name ++ after) = name := by
    obtain ⟨cs, c, rfl⟩ := (List.eq_nil_or_concat' name).resolve_left hne
    have hc : isClosing c = false := hlast c (by simp)
    have hreverse : ∀ c ∈ after.reverse, isClosing c := by
      intro c hc
      exact h.closing c (List.mem_reverse.1 hc)
    rw [Text.dropRightWhile, List.reverse_append, List.dropWhile_append_of_pos hreverse]
    simp [hc]
  rw [Row.core_eq, hstart, hend]

/-- A row whose words have matching brackets and another character is written as its leaf, with the
brackets that the words begin with before it and those that they end in after it. These are equally
many exactly when the core has as many opening as closing brackets, and, however the words are read
as a name in grouping brackets, exactly when the name begins with as many brackets as it ends in.
Brackets that are inside the name are left to it. -/
theorem brackets_of_matched (index : SubjectIndex) {row : Row} (hmatched : Text.Matched row.words)
    (hother : ∃ c ∈ row.words, isBracket c = false) :
    (encode index row).toList =
        List.replicate (leading row.words) '(' ++ (row.leaf index).encode.toList ++
          List.replicate (trailing row.words) ')' ++
          (row.parts.connective.map Connective.symbol).toList ∧
      (leading row.words = trailing row.words ↔
        row.parts.core.count '(' = row.parts.core.count ')') ∧
      ∀ before name after, row.Reads before name after →
        leading row.words = before.count '(' + leading name ∧
          trailing row.words = after.count ')' + trailing name ∧
          (leading row.words = trailing row.words ↔ leading name = trailing name) ∧
          ((∀ c ∈ name.head?, isOpening c = false) → (∀ c ∈ name.getLast?, isClosing c = false) →
            row.parts.core = name) := by
  obtain ⟨c, hmem, hc⟩ := hother
  rw [← opening_eq, ← closing_eq_trailing hmem hc]
  refine ⟨?_, ?_, fun before name after hreads => ?_⟩
  · rw [encode, String.toList_ofList]
  · obtain ⟨hopening, hclosing⟩ := count_words row
    have hclosed := hmatched.closed
    omega
  · obtain ⟨hopening, hclosing⟩ := hreads.brackets
    have hgrouping := hreads.count_eq hmatched
    refine ⟨hopening, hclosing, ?_, hreads.core_eq⟩
    omega

/-- A requirement in two pairs of brackets, whose name has brackets of its own inside. -/
def physicsCourse : Row :=
  { expression := " ((Physics (calculus) or (algebra) course)) or " }

/-- Its row opens and closes the two pairs, and the name is left as it is. -/
theorem brackets_of_matched_physicsCourse :
    Text.Matched physicsCourse.words ∧ (∃ c ∈ physicsCourse.words, isBracket c = false) ∧
      physicsCourse.Reads ['(', '('] "Physics (calculus) or (algebra) course".toList [')', ')'] ∧
      leading physicsCourse.words = 2 ∧ trailing physicsCourse.words = 2 ∧
      physicsCourse.parts.core = "Physics (calculus) or (algebra) course".toList := by
  have hwords : physicsCourse.words =
      ['(', '('] ++ "Physics (calculus) or (algebra) course".toList ++ [')', ')'] := by
    decide +kernel
  have hmatched : Text.Matched physicsCourse.words := by
    rw [hwords]
    decide +kernel
  have hname : Text.Matched "Physics (calculus) or (algebra) course".toList := by decide +kernel
  have hletter : 'P' ∈ "Physics (calculus) or (algebra) course".toList := by decide +kernel
  have hother : ∃ c ∈ physicsCourse.words, isBracket c = false := by
    rw [hwords]
    exact ⟨'P', List.mem_append_left _ (List.mem_append_right _ hletter), rfl⟩
  have hreads : physicsCourse.Reads ['(', '('] "Physics (calculus) or (algebra) course".toList
      [')', ')'] :=
    ⟨hwords, by simp [isOpening], by simp [isClosing], hname, 'P', hletter, rfl⟩
  obtain ⟨-, -, hall⟩ := brackets_of_matched mathematics hmatched hother
  obtain ⟨hleading, htrailing, -, hcore⟩ := hall _ _ _ hreads
  refine ⟨hmatched, hother, hreads, hleading, htrailing, hcore ?_ ?_⟩
  · simp [isOpening]
  · simp [isClosing]

/-- A requirement whose name ends in an abbreviation in brackets. -/
def diagnosticTest : Row :=
  { expression := "Mathematics diagnostic test (MDT)" }

/-- Its brackets match. But the last one is taken from the name and closes what the row has not
opened, so the row does not fit by itself. -/
theorem overcloses_diagnosticTest :
    Text.Matched diagnosticTest.words ∧
      (∃ c ∈ diagnosticTest.words, c ≠ '(' ∧ c ≠ ')' ∧ Text.isBlank c = false) ∧
      diagnosticTest.parts.opening = 0 ∧ diagnosticTest.parts.closing = 1 ∧
      encode mathematics diagnosticTest = "Mathematics diagnostic test (MDT{ffff})" ∧
      ¬ Balanced 0 [diagnosticTest] := by
  have hletter : 'M' ∈ diagnosticTest.words := by decide +kernel
  refine ⟨by decide +kernel, ⟨'M', hletter, ?_⟩, ?_⟩
  · decide
  · decide +kernel

end Row

end Requisite
