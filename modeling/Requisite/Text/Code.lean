/-!
# Characters by number

Hexadecimal digits, and the character with a code point.
-/

namespace Requisite.Text

/-- The value of a hexadecimal digit of either case. -/
def hexValue? (c : Char) : Option Nat :=
  if '0' ≤ c && c ≤ '9' then some (c.toNat - 0x30)
  else if 'a' ≤ c && c ≤ 'f' then some (c.toNat - 0x57)
  else if 'A' ≤ c && c ≤ 'F' then some (c.toNat - 0x37)
  else none

/-- The character with a code point, or the replacement character where there is none. -/
def charOrReplacement (n : Nat) : Char :=
  if h : n.isValidChar then Char.ofNatAux n h else '\uFFFD'

end Requisite.Text
