import Requisite.Page.Names
import Requisite.Text.Code
import Requisite.Text.Numeral

/-!
# Character references

A page writes some characters by name or by number, after an ampersand and as a rule before a
semicolon. In the text of a page and in the value of an attribute the rules for a reference that is
not well formed differ, so each has its own reading: `readReference` and `decodeValue`.
-/

namespace Requisite.Page

/-- Why a page cannot be read. -/
inductive MarkupFault where
  /-- A reference has more digits than a number may have. -/
  | numberTooLong
  /-- A marked section is of no kind that there is. -/
  | unknownSection
  deriving DecidableEq, Repr

/-! ## Numbers -/

/-- A number as a reference writes it. -/
structure WrittenNumber where
  isHex : Bool
  digits : List Char
  /-- The text after the digits. -/
  rest : List Char

/-- A hexadecimal digit of either case. -/
def isHexDigit (c : Char) : Bool := (Text.hexValue? c).isSome

/-- The number after `&#`, or `none` where there is none. -/
def writtenNumber? : List Char → Option WrittenNumber
  | [] => none
  | c :: cs =>
    let isHex := c == 'x' || c == 'X'
    let isDigit := if isHex then isHexDigit else Char.isDigit
    let from' := if isHex then cs else c :: cs
    let digits := from'.takeWhile isDigit
    if digits.isEmpty then none else some ⟨isHex, digits, from'.dropWhile isDigit⟩

/-- The value of a written number; a decimal one may be too long to have a value. -/
def WrittenNumber.value (n : WrittenNumber) : Except MarkupFault Nat :=
  if n.isHex then .ok (n.digits.foldl (fun sum c => 16 * sum + (Text.hexValue? c).getD 0) 0)
  else if n.digits.length ≤ Text.maxDigits then
    .ok (Text.ofDigits (n.digits.map fun c => c.toNat - 0x30))
  else .error .numberTooLong

/-- The code points that the numbers from 0x80 to 0x9F stand for in a reference. -/
def lowNumbers : List Nat := [
  0x20AC, 0x81, 0x201A, 0x192, 0x201E, 0x2026, 0x2020, 0x2021, 0x2C6, 0x2030, 0x160, 0x2039, 0x152,
  0x8D, 0x17D, 0x8F, 0x90, 0x2018, 0x2019, 0x201C, 0x201D, 0x2022, 0x2013, 0x2014, 0x2DC, 0x2122,
  0x161, 0x203A, 0x153, 0x9D, 0x17E, 0x178]

/-- The code point that a number from 0x80 to 0x9F stands for, or `none` for any other number. -/
def lowNumber? (n : Nat) : Option Nat :=
  if 0x80 ≤ n then lowNumbers[n - 0x80]? else none

/-- The character that a number stands for in the text of a page. -/
def numberInText (n : Nat) : Char :=
  if n = 0 then '\uFFFD' else Text.charOrReplacement ((lowNumber? n).getD n)

/-- A control, or a code point that is never a character. -/
def isNoCharacter (n : Nat) : Bool :=
  n ≤ 0x8 || n == 0xB || (0xE ≤ n && n ≤ 0x1F) || n == 0x7F || (0xFDD0 ≤ n && n ≤ 0xFDEF) ||
    (n ≤ 0x10FFFF && 0xFFFE ≤ n % 0x10000)

/-- What a number stands for in an attribute value; the numbers of controls and of code points that
are no characters stand for nothing. -/
def numberInValue (n : Nat) : List Char :=
  if n = 0 then ['\uFFFD']
  else
    match lowNumber? n with
    | some code => [Text.charOrReplacement code]
    | none => if isNoCharacter n then [] else [Text.charOrReplacement n]

/-! ## References in text -/

/-- How what stands at an ampersand of the text reads. -/
inductive Resolved where
  /-- It stands for some characters, and the text goes on after it. -/
  | chars (cs rest : List Char)
  /-- The text may break off within it: the characters before the break, and the text from there. -/
  | broken (cs rest : List Char)

/-- The text after a semicolon, where it starts with one. -/
def pastSemicolon : List Char → List Char
  | ';' :: cs => cs
  | cs => cs

/-- What follows `&#` where no number is to be read; the mark itself is passed if a semicolon comes
later. -/
def brokenNumber (cs : List Char) : Resolved :=
  if cs.contains ';' then .broken ['&', '#'] cs else .broken [] ('&' :: '#' :: cs)

/-- A reference by number, from after `&#`. A number that a hexadecimal digit follows, or with which
the text ends, is none. -/
def readNumber (cs : List Char) : Except MarkupFault Resolved :=
  match writtenNumber? cs with
  | none => .ok (brokenNumber cs)
  | some number =>
    if number.rest.head?.any fun c => !isHexDigit c then
      number.value.map fun n => .chars [numberInText n] (pastSemicolon number.rest)
    else .ok (brokenNumber cs)

/-- What a name stands for; an unknown one stands for itself after its ampersand. -/
def charsOfName (name : List Char) : List Char :=
  (name? name).getD ('&' :: name)

/-- A reference by name, from after the ampersand. Where the text ends with the name, only what
stands before the last dash or dot of it is the name. -/
def readName (cs : List Char) : Resolved :=
  let isPart (c : Char) : Bool := c.isAlphanum || c == '-' || c == '.'
  let isEnd (c : Char) : Bool := c == '-' || c == '.'
  let name := cs.takeWhile isPart
  match cs.dropWhile isPart with
  | [] =>
    match name.reverse.dropWhile fun c => !isEnd c with
    | [] => .broken [] ('&' :: cs)
    | mark :: before =>
      .chars (charsOfName before.reverse)
        (mark :: (name.reverse.takeWhile fun c => !isEnd c).reverse)
  | rest => .chars (charsOfName name) (pastSemicolon rest)

/-- What stands at an ampersand of the text, from after it. -/
def readReference : List Char → Except MarkupFault Resolved
  | [] => .ok (.broken [] ['&'])
  | '#' :: cs => readNumber cs
  | c :: cs => .ok (if c.isAlpha then readName (c :: cs) else .chars ['&'] (c :: cs))

/-! ## References in values -/

/-- The longest of the first `length` characters that are a name which needs no semicolon, with its
length. -/
def openPrefix? (name : List Char) : Nat → Option (List Char × Nat)
  | 0 => none
  | length + 1 =>
    match openName? (name.take (length + 1)) with
    | some chars => some (chars, length + 1)
    | none => openPrefix? name length

/-- The number of characters before a semicolon and, where one follows them, of it too. -/
def withSemicolon (length : Nat) (rest : List Char) : Nat :=
  if rest.head? = some ';' then length + 1 else length

/-- The longest name that may be looked up in a value. -/
def maxNameLength : Nat := 32

/-- What the reference at an ampersand of a value stands for, and how many characters after the
ampersand it takes; `none` where there is no reference. -/
def valueReference? (cs : List Char) : Except MarkupFault (Option (List Char × Nat)) :=
  match cs with
  | '#' :: cs =>
    match writtenNumber? cs with
    | none => .ok none
    | some number =>
      let length := 1 + number.isHex.toNat + number.digits.length
      number.value.map fun n => some (numberInValue n, withSemicolon length number.rest)
  | _ =>
    let name := (cs.takeWhile fun c => !("\t\n\x0c <&#;".toList.contains c)).take maxNameLength
    let isClosed := (cs.drop name.length).head? == some ';'
    match if isClosed then name? name else none with
    | some chars => .ok (some (chars, name.length + 1))
    | none => .ok (openPrefix? name name.length)

/-- The characters `done`, the latest first, and then those of a value with every reference
replaced. `skip` counts the characters of a reference still to pass. -/
def decodeOnto : List Char → Nat → List Char → Except MarkupFault (List Char)
  | done, _, [] => .ok done.reverse
  | done, skip + 1, _ :: cs => decodeOnto done skip cs
  | done, 0, c :: cs =>
    if c = '&' then
      match valueReference? cs with
      | .error fault => .error fault
      | .ok none => decodeOnto (c :: done) 0 cs
      | .ok (some (chars, length)) => decodeOnto (chars.reverse ++ done) length cs
    else decodeOnto (c :: done) 0 cs

/-- The value of an attribute with its references replaced. -/
def decodeValue (cs : List Char) : Except MarkupFault (List Char) :=
  decodeOnto [] 0 cs

end Requisite.Page
