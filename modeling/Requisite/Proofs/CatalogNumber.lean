import Mathlib.Data.List.TakeWhile
import Requisite.CatalogNumber
import Requisite.Proofs.Numeral

/-!
# The query form tells catalog numbers apart

A query names a catalog number by a text in which the number comes first, and then the letters after
it and those before it, each in two places. For a catalog number as most are written, at most two
letters on each side of a plain numeral, the text can be read back: the letters stand in the last
four places, and what is before them is the number, whatever its length (`QueryForm.unique`). So two
of them have one query form exactly if their letters and their numbers agree, and zeros before the
number are all that is lost (`queryForm_identifies`).
-/

namespace Requisite

namespace Text

/-! ## Padding -/

/-- A text without spaces is found again in front of the spaces that it is filled up with. -/
theorem takeWhile_rightpad {cs : List Char} (h : ' ' ∉ cs) (width : Nat) :
    (cs.rightpad width ' ').takeWhile (· ≠ ' ') = cs := by
  have hcs : ∀ c ∈ cs, decide (c ≠ ' ') := fun c hc => decide_eq_true fun heq => h (heq ▸ hc)
  have hspaces (count : Nat) : (List.replicate count ' ').takeWhile (· ≠ ' ') = [] := by
    cases count with
    | zero => rfl
    | succ count => rfl
  rw [List.rightpad, List.takeWhile_append_of_pos hcs, hspaces, List.append_nil]

/-- Two texts without spaces that are the same when they are filled up are the same. -/
theorem eq_of_rightpad_eq {cs ds : List Char} {width : Nat} (hcs : ' ' ∉ cs) (hds : ' ' ∉ ds)
    (h : cs.rightpad width ' ' = ds.rightpad width ' ') : cs = ds := by
  rw [← takeWhile_rightpad hcs width, h, takeWhile_rightpad hds]

/-! ## Reading the parts -/

/-- A capital letter is no digit of any script. -/
theorem digitValue?_of_isUpper {c : Char} (h : c.isUpper) : digitValue? c = none := by
  have hrange : 0x41 ≤ c.toNat ∧ c.toNat ≤ 0x5A := of_decide_eq_true h
  -- The digits of all other scripts come after the letters.
  have hzeros : ∀ first ∈ decimalZeros, first = 0x30 ∨ 0x5A < first := by decide
  rw [digitValue?, List.find?_eq_none.2, Option.map_none]
  intro first hfirst
  rw [Bool.and_eq_true, decide_eq_true_eq, decide_eq_true_eq]
  rcases hzeros first hfirst with rfl | hlt
  · omega
  · omega

/-- A capital letter is not blank. -/
theorem isBlank_of_isUpper {c : Char} (h : c.isUpper) : isBlank c = false := by
  have hrange : 0x41 ≤ c.toNat ∧ c.toNat ≤ 0x5A := of_decide_eq_true h
  rw [Bool.eq_false_iff]
  simp only [isBlank, ne_eq, Bool.or_eq_true, Bool.and_eq_true, decide_eq_true_eq, beq_iff_eq]
  omega

/-- Characters of a class are cut off from what follows them, if that begins with another one. -/
theorem span_append {p : Char → Bool} {cs ds : List Char} (hcs : ∀ c ∈ cs, p c)
    (hds : ∀ d ∈ ds.head?, p d = false) :
    (cs ++ ds).takeWhile p = cs ∧ (cs ++ ds).dropWhile p = ds := by
  rw [List.takeWhile_append_of_pos hcs, List.dropWhile_append_of_pos hcs]
  cases ds with
  | nil => exact ⟨List.append_nil cs, rfl⟩
  | cons d ds =>
    have hd : ¬p d = true := by simp [hds d rfl]
    rw [List.takeWhile_cons_of_neg hd, List.dropWhile_cons_of_neg hd, List.append_nil]
    exact ⟨rfl, rfl⟩

end Text

namespace CatalogNumber

/-! ## Catalog numbers as most are written -/

/-- A plain numeral of a length that is read, with at most two capital letters on each side. -/
structure Plain (n : CatalogNumber) : Prop where
  before : n.before.all Char.isUpper
  before_length : n.before.length ≤ 2
  digits : n.digits.all Char.isDigit
  digits_ne_nil : n.digits ≠ []
  digits_length : n.digits.length ≤ 4300
  after : n.after.all Char.isUpper
  after_length : n.after.length ≤ 2

/-- The catalog number as it is written. -/
def text (n : CatalogNumber) : String :=
  String.ofList (n.before ++ n.digits ++ n.after)

/-- The number that its digits write. -/
def number (n : CatalogNumber) : Nat :=
  Nat.ofDigitChars 10 n.digits 0

variable {n m : CatalogNumber}

/-- The letters around a number are the capital ones. -/
theorem isCapital_iff {c : Char} : isCapital c ↔ c.isUpper := by
  rw [isCapital, Bool.and_eq_true, decide_eq_true_eq, decide_eq_true_eq]
  exact ⟨fun h => decide_eq_true h, fun h => of_decide_eq_true h⟩

/-- Its parts are read from its text. -/
theorem ofText_text (h : n.Plain) : ofText n.text = n := by
  have hbefore : ∀ c ∈ n.before, c.isUpper := List.all_eq_true.1 h.before
  have hdigits : ∀ c ∈ n.digits, c.isDigit := List.all_eq_true.1 h.digits
  have hafter : ∀ c ∈ n.after, c.isUpper := List.all_eq_true.1 h.after
  have hblank : ∀ c ∈ n.before ++ n.digits ++ n.after, Text.isBlank c = false := by
    intro c hc
    rw [List.mem_append, List.mem_append] at hc
    rcases hc with (hc | hc) | hc
    · exact Text.isBlank_of_isUpper (hbefore c hc)
    · exact Text.isBlank_of_digitValue? (Text.digitValue?_of_isDigit (hdigits c hc))
    · exact Text.isBlank_of_isUpper (hafter c hc)
  have htrim : Text.trimWhile Text.isBlank (n.before ++ n.digits ++ n.after) =
      n.before ++ n.digits ++ n.after :=
    Text.trimWhile_eq_self (fun c hc => hblank c (List.mem_of_mem_head? hc))
      fun c hc => hblank c (List.mem_of_getLast? hc)
  -- Each part ends where the next one begins.
  have hfirst : ∀ c ∈ (n.digits ++ n.after).head?, isCapital c = false := by
    intro c hc
    rw [List.head?_append, List.head?_eq_some_head h.digits_ne_nil] at hc
    obtain rfl := Option.some.inj hc
    obtain ⟨-, hhigh⟩ := Char.isDigit_iff_toNat.1 (hdigits _ (List.head_mem h.digits_ne_nil))
    refine Bool.eq_false_iff.2 fun hcapital => ?_
    obtain ⟨hlow, -⟩ := of_decide_eq_true (isCapital_iff.1 hcapital)
    exact absurd (Nat.le_trans hlow hhigh) (by decide)
  have hnext : ∀ c ∈ n.after.head?, isDigit c = false := by
    intro c hc
    rw [isDigit, Text.digitValue?_of_isUpper (hafter c (List.mem_of_mem_head? hc))]
    rfl
  have hdigit : ∀ c ∈ n.digits, isDigit c := by
    intro c hc
    rw [isDigit, Text.digitValue?_of_isDigit (hdigits c hc)]
    rfl
  obtain ⟨htake, hdrop⟩ :=
    Text.span_append (fun c hc => isCapital_iff.2 (hbefore c hc)) hfirst
  obtain ⟨htake', hdrop'⟩ := Text.span_append hdigit hnext
  have hlast : n.after.takeWhile isCapital = n.after :=
    List.takeWhile_eq_self_iff.2 fun c hc => isCapital_iff.2 (hafter c hc)
  rw [ofText, text, String.toList_ofList, htrim, List.append_assoc, ofList, htake, hdrop, htake',
    hdrop', hlast]

/-! ## The query form -/

/-- The text shows the parts of the catalog number: its number with zeros before it up to four
places, then the letters after it and the letters before it, each in two places. -/
structure QueryForm (n : CatalogNumber) (text : String) : Prop where
  length : text.length = max 4 (Nat.toDigits 10 n.number).length + 4
  before : text.toList.drop (text.length - 2) = n.before.rightpad 2 ' '
  after : (text.toList.drop (text.length - 4)).take 2 = n.after.rightpad 2 ' '
  number : text.toList.take (text.length - 4) = (Nat.toDigits 10 n.number).leftpad 4 '0'

/-- Its query form is made of its parts. -/
theorem formatCatalogNumber?_text (h : n.Plain) :
    formatCatalogNumber? n.text = some (String.ofList ((Nat.toDigits 10 n.number).leftpad 4 '0' ++
      n.after.rightpad 2 ' ' ++ n.before.rightpad 2 ' ')) := by
  have hdigits : n.digits.isEmpty = false := by simpa using h.digits_ne_nil
  rw [formatCatalogNumber?, ofText_text h, queryForm?, if_neg (by simp [hdigits]),
    Text.natural?_of_isDigit h.digits_ne_nil (List.all_eq_true.1 h.digits) h.digits_length]
  rfl

/-- Where two parts of two places follow another, each is found by its distance from the end. -/
theorem cut_of_append (xs : List Char) {ys zs : List Char} (hys : ys.length = 2)
    (hzs : zs.length = 2) :
    (xs ++ ys ++ zs).drop ((xs ++ ys ++ zs).length - 2) = zs ∧
      ((xs ++ ys ++ zs).drop ((xs ++ ys ++ zs).length - 4)).take 2 = ys ∧
      (xs ++ ys ++ zs).take ((xs ++ ys ++ zs).length - 4) = xs := by
  have hlast : (xs ++ ys ++ zs).length - 2 = (xs ++ ys).length := by
    rw [List.length_append, hzs]
    omega
  have hboth : (xs ++ ys ++ zs).length - 4 = xs.length := by
    rw [List.length_append, List.length_append, hys, hzs]
    omega
  refine ⟨?_, ?_, ?_⟩
  · rw [hlast, List.drop_left]
  · rw [hboth, List.append_assoc, List.drop_left, List.take_left' hys]
  · rw [hboth, List.append_assoc, List.take_left]

/-- A text of these parts shows them. -/
theorem QueryForm.of_parts (h : n.Plain) :
    QueryForm n (String.ofList ((Nat.toDigits 10 n.number).leftpad 4 '0' ++
      n.after.rightpad 2 ' ' ++ n.before.rightpad 2 ' ')) := by
  have hwidth {cs : List Char} (hcs : cs.length ≤ 2) : (cs.rightpad 2 ' ').length = 2 := by
    rw [List.length_rightpad]
    omega
  obtain ⟨hbefore, hafter, hnumber⟩ :=
    cut_of_append ((Nat.toDigits 10 n.number).leftpad 4 '0') (hwidth h.after_length)
      (hwidth h.before_length)
  constructor
  · rw [String.length_ofList, List.length_append, List.length_append, List.length_leftpad,
      hwidth h.after_length, hwidth h.before_length]
  · rw [String.toList_ofList, String.length_ofList, hbefore]
  · rw [String.toList_ofList, String.length_ofList, hafter]
  · rw [String.toList_ofList, String.length_ofList, hnumber]

/-- It shows no other letters and no other number, however long the number is. -/
theorem QueryForm.unique {text : String} (hn : n.Plain) (hm : m.Plain) (h : QueryForm n text)
    (h' : QueryForm m text) : n.before = m.before ∧ n.after = m.after ∧ n.number = m.number := by
  have hspace {cs : List Char} (hcs : cs.all Char.isUpper) : ' ' ∉ cs := fun hmem =>
    absurd (List.all_eq_true.1 hcs ' ' hmem) (by decide)
  refine ⟨?_, ?_, ?_⟩
  · have hpadded := h.before.symm.trans h'.before
    exact Text.eq_of_rightpad_eq (hspace hn.before) (hspace hm.before) hpadded
  · have hpadded := h.after.symm.trans h'.after
    exact Text.eq_of_rightpad_eq (hspace hn.after) (hspace hm.after) hpadded
  · rw [← Text.ofDigitChars_leftpad 4 n.number, ← h.number, h'.number, Text.ofDigitChars_leftpad]

/-- A catalog number as most are written has a query form, which shows its letters and its number.
Two of them have the same query form exactly if their letters and their numbers agree. -/
theorem queryForm_identifies (hn : n.Plain) :
    (∃ text, formatCatalogNumber? n.text = some text ∧ QueryForm n text) ∧
      ∀ m : CatalogNumber, m.Plain →
        (formatCatalogNumber? n.text = formatCatalogNumber? m.text ↔
          n.before = m.before ∧ n.after = m.after ∧ n.number = m.number) := by
  refine ⟨⟨_, formatCatalogNumber?_text hn, .of_parts hn⟩, fun m hm => ?_⟩
  constructor
  · intro heq
    rw [formatCatalogNumber?_text hn, formatCatalogNumber?_text hm, Option.some_inj] at heq
    refine (QueryForm.of_parts hn).unique hn hm ?_
    rw [heq]
    exact .of_parts hm
  · rintro ⟨hbefore, hafter, hnumber⟩
    rw [formatCatalogNumber?_text hn, formatCatalogNumber?_text hm, hbefore, hafter, hnumber]

/-- A zero before the number makes no difference, and letters on the other side do. -/
theorem queryForm_identifies_leadingZero :
    Plain ⟨['M'], ['0', '5', '1'], ['A']⟩ ∧ Plain ⟨['M'], ['5', '1'], ['A']⟩ ∧
      Plain ⟨['A'], ['5', '1'], ['M']⟩ ∧
      formatCatalogNumber? "M051A" = formatCatalogNumber? "M51A" ∧
      formatCatalogNumber? "M051A" ≠ formatCatalogNumber? "A51M" := by
  have hzero : Plain ⟨['M'], ['0', '5', '1'], ['A']⟩ :=
    ⟨by decide, by decide, by decide, by decide, by simp, by decide, by decide⟩
  have hplain : Plain ⟨['M'], ['5', '1'], ['A']⟩ :=
    ⟨by decide, by decide, by decide, by decide, by simp, by decide, by decide⟩
  have hswapped : Plain ⟨['A'], ['5', '1'], ['M']⟩ :=
    ⟨by decide, by decide, by decide, by decide, by simp, by decide, by decide⟩
  obtain ⟨-, hiff⟩ := queryForm_identifies hzero
  refine ⟨hzero, hplain, hswapped, (hiff _ hplain).2 ⟨rfl, rfl, rfl⟩, fun heq => ?_⟩
  exact absurd ((hiff _ hswapped).1 heq).1 (by decide)

/-- A number of more than four digits takes the places that it needs. -/
example : formatCatalogNumber? "C0012345" = some "12345  C " := by decide

end CatalogNumber

end Requisite
