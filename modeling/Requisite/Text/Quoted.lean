import Requisite.Text.Printable

/-!
# Quoted text

How a message shows a text: between single quotes, or between double quotes where the text holds a
single quote and no double one; backslashes, the quote itself and unprintable characters are
escaped.
-/

namespace Requisite.Text

/-- The lower-case hexadecimal digits of `n`, with zeros before them up to `width` characters. -/
def paddedHex (width n : Nat) : List Char :=
  let digits := Nat.toDigits 16 n
  List.replicate (width - digits.length) '0' ++ digits

/-- The escape of a character by its code point, in the shortest of the three forms that holds
it. -/
def escapeCode (c : Char) : List Char :=
  if c.toNat < 0x100 then '\\' :: 'x' :: paddedHex 2 c.toNat
  else if c.toNat < 0x10000 then '\\' :: 'u' :: paddedHex 4 c.toNat
  else '\\' :: 'U' :: paddedHex 8 c.toNat

/-- One character between quotes of the kind `mark`. -/
def quoteChar (mark c : Char) : List Char :=
  if c = mark ∨ c = '\\' then ['\\', c]
  else if c = '\n' then ['\\', 'n']
  else if c = '\r' then ['\\', 'r']
  else if c = '\t' then ['\\', 't']
  else if isPrintable c then [c]
  else escapeCode c

/-- The quotation mark for a text. -/
def quoteMark (cs : List Char) : Char :=
  if cs.contains '\'' && !cs.contains '"' then '"' else '\''

/-- The text as a message shows it. -/
def quoted (s : String) : String :=
  let mark := quoteMark s.toList
  String.ofList (mark :: (s.toList.flatMap (quoteChar mark) ++ [mark]))

example : quoted "it's\t\x07" = "\"it's\\t\\x07\"" := by decide +kernel

end Requisite.Text
