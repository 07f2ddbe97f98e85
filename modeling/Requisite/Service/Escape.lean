import Requisite.Text.Code

/-!
# Escapes in addresses

In an address, a percent sign with two hexadecimal digits is a byte. Bytes in a row are read as
UTF-8, and every character can be written by the escapes of its bytes. Bytes that are no UTF-8 fall
into groups, each the start of a character as far as it goes.
-/

namespace Requisite.Service

/-! ## Reading -/

/-- What stands in an address after its escapes are read. -/
inductive Mark where
  /-- A byte of UTF-8, written as an escape or as a plain character. -/
  | byte (n : Nat)
  /-- A character beyond the plain ones, written as itself. -/
  | char (c : Char)
  deriving DecidableEq, Repr

/-- A character that is written as itself. -/
def markOf (c : Char) : Mark :=
  if c.toNat < 0x80 then .byte c.toNat else .char c

/-- The marks of a text with escapes. -/
def marks : List Char → List Mark
  | [] => []
  | '%' :: a :: b :: cs =>
    match Text.hexValue? a, Text.hexValue? b with
    | some high, some low => .byte (16 * high + low) :: marks cs
    | _, _ => .byte 0x25 :: marks (a :: b :: cs)
  | c :: cs => markOf c :: marks cs

/-- How many bytes follow the first byte of a character, or `none` where no character starts so. -/
def furtherBytes? (first : Nat) : Option Nat :=
  if 0xC2 ≤ first && first < 0xE0 then some 1
  else if 0xE0 ≤ first && first < 0xF0 then some 2
  else if 0xF0 ≤ first && first < 0xF5 then some 3
  else none

/-- The least and the greatest second byte of a character with a first byte; the shorter forms of a
character, halves of a pair and what lies beyond the last character are left out. -/
def secondBytes (first : Nat) : Nat × Nat :=
  if first = 0xE0 then (0xA0, 0xBF)
  else if first = 0xED then (0x80, 0x9F)
  else if first = 0xF0 then (0x90, 0xBF)
  else if first = 0xF4 then (0x80, 0x8F)
  else (0x80, 0xBF)

/-- The bytes at the start of the marks that continue a character, at most `count`; the first of
them lies between `least` and `greatest`. -/
def continuing (least greatest : Nat) : Nat → List Mark → List Nat
  | count + 1, .byte n :: ms =>
    if least ≤ n && n ≤ greatest then n :: continuing 0x80 0xBF count ms else []
  | _, _ => []

/-- The bytes that belong together at the start of the marks, after their first byte, and whether
they are a character. -/
def group (first : Nat) (ms : List Mark) : List Nat × Bool :=
  match furtherBytes? first with
  | none => ([], false)
  | some count =>
    let (least, greatest) := secondBytes first
    let bytes := continuing least greatest count ms
    (bytes, bytes.length == count)

/-- The character of some bytes of UTF-8. -/
def charOfBytes (first : Nat) (bytes : List Nat) : Char :=
  let lead := first % (if bytes.length = 1 then 0x20 else if bytes.length = 2 then 0x10 else 0x08)
  Text.charOrReplacement (bytes.foldl (fun n byte => 0x40 * n + (byte - 0x80)) lead)

/-- The characters of marks, where `other` gives those of bytes that are no character. `skip` counts
the bytes still to pass. -/
def unmark (other : List Nat → List Char) : Nat → List Mark → List Char
  | _, [] => []
  | skip + 1, _ :: ms => unmark other skip ms
  | 0, .char c :: ms => c :: unmark other 0 ms
  | 0, .byte n :: ms =>
    if n < 0x80 then Char.ofNat n :: unmark other 0 ms
    else
      let (bytes, isChar) := group n ms
      (if isChar then [charOfBytes n bytes] else other (n :: bytes)) ++
        unmark other bytes.length ms

/-! ## Writing -/

/-- The hexadecimal digit of a number below sixteen, as a capital. -/
def capitalHexDigit (n : Nat) : Char :=
  (Nat.digitChar n).toUpper

/-- The escape of a byte. -/
def escapeByte (n : Nat) : List Char :=
  ['%', capitalHexDigit (n / 16), capitalHexDigit (n % 16)]

/-- The bytes of a character in UTF-8. -/
def bytesOf (c : Char) : List Nat :=
  (String.utf8EncodeChar c).map UInt8.toNat

/-- The characters that stand for themselves in a written path. -/
def isPathChar (c : Char) : Bool :=
  c.isAlphanum || "_.-~!$&'()*+,/:;=@".toList.contains c

/-- A path with escapes for all characters that do not stand for themselves. -/
def escapePath (path : List Char) : List Char :=
  path.flatMap fun c => if isPathChar c then [c] else (bytesOf c).flatMap escapeByte

/-! ## Paths and queries -/

/-- The text that a path writes; bytes that are no character become the replacement character. -/
def decodePath (cs : List Char) : List Char :=
  unmark (fun _ => ['\uFFFD']) 0 (marks cs)

/-- The text that a name or a value of a query writes. A plus sign is a space, and bytes that are no
character stay as escapes. -/
def decodePart (cs : List Char) : String :=
  let spaced := cs.map fun c => if c = '+' then ' ' else c
  String.ofList (unmark (fun bytes => bytes.flatMap escapeByte) 0 (marks spaced))

example : decodePart "a+%C3%A9%ff".toList = "a é%FF" := by decide
example : escapePath (decodePath "/%41%E2%82/é".toList) = "/A%EF%BF%BD/%C3%A9".toList := by decide

end Requisite.Service
