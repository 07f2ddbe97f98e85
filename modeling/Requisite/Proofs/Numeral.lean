import Requisite.Text.Numeral

/-!
# What an integer numeral is

The reader of numerals trims a text, looks for a sign and goes through the digits. Here it is said
of the text alone when it writes an integer: between blanks stands a numeral, with at most one sign
before it, digits of any script, and at most one underscore between two of them
(`Text.WritesInteger`). `integer?_eq_some_iff` shows that the reader accepts exactly these texts,
with the number that they write. The other part of the module is about the plain numerals, whose
digits are the ten common ones.
-/

namespace Requisite.Text

variable {c : Char} {d : Nat} {cs : List Char} {ds : List Nat}

/-! ## Digits -/

/-- A digit of any script is not blank. -/
theorem isBlank_of_digitValue? (h : digitValue? c = some d) : isBlank c = false := by
  obtain ⟨first, hfirst, -⟩ := Option.map_eq_some_iff.1 h
  have hrange := List.find?_some hfirst
  -- All blanks lie in the gaps between these digits.
  have hgaps : ∀ first ∈ decimalZeros, first = 0x30 ∨ (0x660 ≤ first ∧ first < 0x1650) ∨
      (0x1690 ≤ first ∧ first < 0x1FF0) ∨ 0x3010 ≤ first := by
    decide
  have hgap := hgaps first (List.mem_of_find?_eq_some hfirst)
  rw [Bool.eq_false_iff]
  simp only [isBlank, ne_eq, Bool.or_eq_true, Bool.and_eq_true, decide_eq_true_eq, beq_iff_eq]
    at hrange ⊢
  omega

/-- A digit of any script is not trimmed off a numeral. -/
theorem isNumeralBlank_of_digitValue? (h : digitValue? c = some d) : isNumeralBlank c = false := by
  rw [isNumeralBlank, isBlank_of_digitValue? h, Bool.false_and]

/-- The digits of a numeral: at least one, and at most one underscore between two of them. -/
inductive Numeral : List Char → List Nat → Prop where
  | last {c : Char} {d : Nat} (digit : digitValue? c = some d) : Numeral [c] [d]
  | next {c : Char} {d : Nat} {cs : List Char} {ds : List Nat} (digit : digitValue? c = some d)
      (more : Numeral cs ds) : Numeral (c :: cs) (d :: ds)
  | spaced {c : Char} {d : Nat} {cs : List Char} {ds : List Nat} (digit : digitValue? c = some d)
      (more : Numeral cs ds) : Numeral (c :: '_' :: cs) (d :: ds)

/-- A numeral begins with a digit. -/
theorem Numeral.head? (h : Numeral cs ds) :
    ∃ c d, cs.head? = some c ∧ digitValue? c = some d := by
  cases h with
  | last digit => exact ⟨_, _, rfl, digit⟩
  | next digit more => exact ⟨_, _, rfl, digit⟩
  | spaced digit more => exact ⟨_, _, rfl, digit⟩

/-- What begins with another character is no numeral. -/
theorem not_numeral_cons (hc : digitValue? c = none) : ¬Numeral (c :: cs) ds := by
  intro h
  obtain ⟨_, d, ⟨⟩, hd⟩ := h.head?
  rw [hc] at hd
  cases hd

/-- A numeral ends in a digit. -/
theorem Numeral.getLast? (h : Numeral cs ds) :
    ∃ c d, cs.getLast? = some c ∧ digitValue? c = some d := by
  induction h with
  | last digit => exact ⟨_, _, rfl, digit⟩
  | next digit more ih =>
    obtain ⟨c, d, hlast, hd⟩ := ih
    exact ⟨c, d, by simp [List.getLast?_cons, hlast], hd⟩
  | spaced digit more ih =>
    obtain ⟨c, d, hlast, hd⟩ := ih
    exact ⟨c, d, by simp [List.getLast?_cons, hlast], hd⟩

/-- The digits that are read are those of the numeral. -/
theorem digits?_eq_some_iff : digits? cs = some ds ↔ Numeral cs ds := by
  constructor
  · intro h
    fun_induction digits? cs generalizing ds with
    | case1 => cases h
    | case2 c =>
      obtain ⟨d, hd, rfl⟩ := Option.map_eq_some_iff.1 h
      exact .last hd
    | case3 c cs ih =>
      obtain ⟨d, hd, h⟩ := Option.bind_eq_some_iff.1 h
      obtain ⟨ds, hds, h⟩ := Option.bind_eq_some_iff.1 h
      obtain rfl := Option.some.inj h
      exact .spaced hd (ih hds)
    | case4 c cs hmore hunderscore ih =>
      obtain ⟨d, hd, h⟩ := Option.bind_eq_some_iff.1 h
      obtain ⟨ds, hds, h⟩ := Option.bind_eq_some_iff.1 h
      obtain rfl := Option.some.inj h
      exact .next hd (ih hds)
  · intro h
    induction h with
    | last digit => rw [digits?, digit]; rfl
    | @next c d cs ds digit more ih =>
      -- The rest begins with a digit, so that it is neither empty nor begins with an underscore.
      obtain ⟨c', -, hhead, -⟩ := more.head?
      obtain ⟨rest, rfl⟩ := List.head?_eq_some_iff.1 hhead
      have hne : c' ≠ '_' := by
        rintro rfl
        exact not_numeral_cons (by decide) more
      rw [digits?, digit, ih]
      · rfl
      · simp
      · intro cs' heq
        exact hne (List.cons.inj heq).1
    | spaced digit more ih => rw [digits?, digit, ih]; rfl

/-! ## Integers -/

/-- A numeral with at most one sign before it, and no more digits than are read. -/
inductive SignedNumeral : List Char → Int → Prop where
  | unsigned {cs : List Char} {ds : List Nat} (numeral : Numeral cs ds)
      (length : ds.length ≤ maxDigits) : SignedNumeral cs (ofDigits ds)
  | plus {cs : List Char} {ds : List Nat} (numeral : Numeral cs ds)
      (length : ds.length ≤ maxDigits) : SignedNumeral ('+' :: cs) (ofDigits ds)
  | minus {cs : List Char} {ds : List Nat} (numeral : Numeral cs ds)
      (length : ds.length ≤ maxDigits) : SignedNumeral ('-' :: cs) (-(ofDigits ds : Int))

/-- The text writes the integer: between blanks stands a numeral, which may have a sign. -/
def WritesInteger (cs : List Char) (n : Int) : Prop :=
  ∃ before numeral after, before ++ numeral ++ after = cs ∧ (∀ c ∈ before, isNumeralBlank c) ∧
    (∀ c ∈ after, isNumeralBlank c) ∧ SignedNumeral numeral n

/-- The number that is read is the one that the digits write, if they are not too many. -/
theorem natural?_eq_some_iff {n : Nat} :
    natural? cs = some n ↔ ∃ ds, Numeral cs ds ∧ ds.length ≤ maxDigits ∧ ofDigits ds = n := by
  simp only [natural?, bind, Option.bind_eq_some_iff, digits?_eq_some_iff,
    Option.ite_none_right_eq_some, Option.some_inj]

/-- Nothing is trimmed off a numeral and its sign. -/
theorem SignedNumeral.trimWhile_eq {n : Int} (h : SignedNumeral cs n) :
    trimWhile isNumeralBlank cs = cs := by
  have hlast {cs : List Char} {ds : List Nat} (h : Numeral cs ds) :
      ∀ c ∈ cs.getLast?, isNumeralBlank c = false := by
    obtain ⟨c, d, hc, hd⟩ := h.getLast?
    rw [hc]
    rintro _ ⟨⟩
    exact isNumeralBlank_of_digitValue? hd
  have hlast_cons {sign : Char} {cs : List Char} {ds : List Nat} (h : Numeral cs ds) :
      ∀ c ∈ (sign :: cs).getLast?, isNumeralBlank c = false := by
    obtain ⟨c, d, hc, -⟩ := h.getLast?
    have := hlast h
    rwa [List.getLast?_cons, hc, Option.getD_some, ← hc]
  cases h with
  | unsigned numeral length =>
    refine trimWhile_eq_self ?_ (hlast numeral)
    obtain ⟨c, d, hc, hd⟩ := numeral.head?
    rw [hc]
    rintro _ ⟨⟩
    exact isNumeralBlank_of_digitValue? hd
  | plus numeral length => exact trimWhile_eq_self (by simp; decide) (hlast_cons numeral)
  | minus numeral length => exact trimWhile_eq_self (by simp; decide) (hlast_cons numeral)

/-- A number with a sign before it is the number without it under that sign. -/
theorem map_natural?_eq_some_iff {sign : Int → Int} {n : Int} :
    (natural? cs : Option Int).map sign = some n ↔
      ∃ ds, Numeral cs ds ∧ ds.length ≤ maxDigits ∧ sign (ofDigits ds) = n := by
  simp only [bind, pure, Option.map_eq_some_iff, Option.bind_eq_some_iff, natural?_eq_some_iff,
    Option.some_inj]
  constructor
  · rintro ⟨_, ⟨_, ⟨ds, hds, hlength, rfl⟩, rfl⟩, rfl⟩
    exact ⟨ds, hds, hlength, rfl⟩
  · rintro ⟨ds, hds, hlength, rfl⟩
    exact ⟨_, ⟨_, ⟨ds, hds, hlength, rfl⟩, rfl⟩, rfl⟩

/-- A text is read as an integer exactly if it is, when trimmed, a numeral with at most one sign. -/
theorem integer?_eq_some_iff_signed {s : String} {n : Int} :
    integer? s = some n ↔ SignedNumeral (trimWhile isNumeralBlank s.toList) n := by
  rw [integer?]
  generalize trimWhile isNumeralBlank s.toList = text
  -- A sign is no digit, so that a numeral does not begin with one.
  split
  next cs =>
    rw [map_natural?_eq_some_iff]
    constructor
    · rintro ⟨ds, hds, hlength, rfl⟩
      exact .minus hds hlength
    · intro h
      cases h with
      | unsigned numeral length => exact absurd numeral (not_numeral_cons (by decide))
      | minus numeral length => exact ⟨_, numeral, length, rfl⟩
  next cs =>
    rw [map_natural?_eq_some_iff]
    constructor
    · rintro ⟨ds, hds, hlength, rfl⟩
      exact .plus hds hlength
    · intro h
      cases h with
      | unsigned numeral length => exact absurd numeral (not_numeral_cons (by decide))
      | plus numeral length => exact ⟨_, numeral, length, rfl⟩
  next hminus hplus =>
    rw [map_natural?_eq_some_iff]
    constructor
    · rintro ⟨ds, hds, hlength, rfl⟩
      exact .unsigned hds hlength
    · intro h
      cases h with
      | unsigned numeral length => exact ⟨_, numeral, length, rfl⟩
      | plus numeral length => exact absurd rfl (hplus _)
      | minus numeral length => exact absurd rfl (hminus _)

/-- A text is read as the integer that it writes, and any other text as none. -/
theorem integer?_eq_some_iff {n : Int} :
    integer? (String.ofList cs) = some n ↔ WritesInteger cs n := by
  rw [integer?_eq_some_iff_signed, String.toList_ofList]
  constructor
  · intro h
    obtain ⟨before, after, hcs, hbefore, hafter⟩ := exists_append_trimWhile isNumeralBlank cs
    exact ⟨before, _, after, hcs, hbefore, hafter, h⟩
  · rintro ⟨before, numeral, after, rfl, hbefore, hafter, h⟩
    rwa [trimWhile_append hbefore hafter, h.trimWhile_eq]

/-! ## Plain numerals -/

/-- A plain digit is worth what it stands above zero. -/
theorem digitValue?_of_isDigit (h : c.isDigit) : digitValue? c = some (c.toNat - '0'.toNat) := by
  obtain ⟨hlow, hhigh⟩ := Char.isDigit_iff_toNat.1 h
  have hzero : '0'.toNat = 0x30 := rfl
  have hnine : '9'.toNat = 0x39 := rfl
  have hrange : (0x30 ≤ c.toNat && c.toNat < 0x30 + 10) = true := by
    rw [Bool.and_eq_true, decide_eq_true_eq, decide_eq_true_eq]
    omega
  have hfirst : (decimalZeros.find? fun first => first ≤ c.toNat && c.toNat < first + 10) =
      some 0x30 :=
    List.find?_cons_of_pos hrange
  rw [digitValue?, hfirst]
  rfl

/-- Plain digits are a numeral. -/
theorem Numeral.of_isDigit (hne : cs ≠ []) (h : ∀ c ∈ cs, c.isDigit) :
    Numeral cs (cs.map fun c => c.toNat - '0'.toNat) := by
  induction cs with
  | nil => exact absurd rfl hne
  | cons c cs ih =>
    obtain ⟨hc, hcs⟩ := List.forall_mem_cons.1 h
    cases cs with
    | nil => exact .last (digitValue?_of_isDigit hc)
    | cons c' cs => exact .next (digitValue?_of_isDigit hc) (ih (List.cons_ne_nil _ _) hcs)

/-- They write the number that they are the decimal digits of, unless there are too many. -/
theorem natural?_of_isDigit (hne : cs ≠ []) (h : ∀ c ∈ cs, c.isDigit)
    (hlength : cs.length ≤ maxDigits) : natural? cs = some (Nat.ofDigitChars 10 cs 0) := by
  refine natural?_eq_some_iff.2 ⟨_, .of_isDigit hne h, by rwa [List.length_map], ?_⟩
  rw [ofDigits, List.foldl_map, Nat.ofDigitChars_eq_foldl]

/-- Zeros before a number do not change it. -/
theorem ofDigitChars_leftpad (width n : Nat) :
    Nat.ofDigitChars 10 ((Nat.toDigits 10 n).leftpad width '0') 0 = n := by
  rw [List.leftpad, Nat.ofDigitChars_append, Nat.ofDigitChars_replicate_zero, Nat.mul_zero,
    Nat.ofDigitChars_ten_toDigits]

end Requisite.Text
