import Requisite.Text.Blank
import Requisite.Text.Digit

/-!
# Integer numerals

The written form of an integer: blanks around it, one sign before it, decimal digits of any script,
and single underscores between digits. A numeral of more than `maxDigits` digits has no value.
-/

namespace Requisite.Text

/-- The longest numeral that is read, in digits; leading zeros count. -/
def maxDigits : Nat := 4300

/-- The digits of a numeral: at least one, and at most one underscore between two of them. -/
def digits? : List Char → Option (List Nat)
  | [] => none
  | [c] => (digitValue? c).map ([·])
  | c :: '_' :: cs => do
    let d ← digitValue? c
    let ds ← digits? cs
    some (d :: ds)
  | c :: cs => do
    let d ← digitValue? c
    let ds ← digits? cs
    some (d :: ds)

/-- The number written by a numeral without sign, or `none` where it is no numeral or too long. -/
def natural? (cs : List Char) : Option Nat := do
  let ds ← digits? cs
  if ds.length ≤ maxDigits then some (ofDigits ds) else none

/-- The blanks that may stand around a numeral: all but the controls that separate fields. -/
def isNumeralBlank (c : Char) : Bool :=
  isBlank c && !(0x1C ≤ c.toNat && c.toNat ≤ 0x1F)

/-- The integer that a text writes, or `none` where it writes none. -/
def integer? (s : String) : Option Int :=
  match trimWhile isNumeralBlank s.toList with
  | '-' :: cs => (natural? cs).map fun n => -(n : Int)
  | '+' :: cs => (natural? cs).map fun n => (n : Int)
  | cs => (natural? cs).map fun n => (n : Int)

/-- The decimal digits of `n`, with zeros before them up to `width` characters. -/
def paddedDecimal (width n : Nat) : List Char :=
  let digits := Nat.toDigits 10 n
  List.replicate (width - digits.length) '0' ++ digits

example : integer? " -1_0\n" = some (-10) ∧ integer? "1__0" = none ∧ integer? "+ 1" = none := by
  decide

end Requisite.Text
