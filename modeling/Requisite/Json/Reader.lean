import Requisite.Json.Value
import Requisite.Text.Code
import Requisite.Text.Numeral

/-!
# Reading JSON

The strict reading of a JSON text: one value with blanks around it, no trailing commas, and no
control characters within strings. Besides the numbers of the format, `NaN` and `Infinity` are read.
-/

namespace Requisite

/-- Why a text is no JSON value. -/
inductive JsonFault where
  /-- The text breaks the grammar. -/
  | malformed
  /-- An integer has too many digits. -/
  | integerTooLong
  deriving DecidableEq, Repr

namespace JsonReader

/-- A blank of the format. -/
def isBlank (c : Char) : Bool := c == ' ' || c == '\t' || c == '\n' || c == '\r'

/-- The text without blanks at its start. -/
def skipBlanks (cs : List Char) : List Char := cs.dropWhile isBlank

/-! ## Strings -/

/-- The value of four hexadecimal digits, and what follows them. -/
def hexUnit? : List Char → Option (Nat × List Char)
  | a :: b :: c :: d :: rest => do
    let a ← Text.hexValue? a
    let b ← Text.hexValue? b
    let c ← Text.hexValue? c
    let d ← Text.hexValue? d
    some (0x1000 * a + 0x100 * b + 0x10 * c + d, rest)
  | _ => none

/-- The character of an escape by code units, and what follows it, from after its `u`. A lone half
of a pair becomes the replacement character. -/
def unicodeEscape? (cs : List Char) : Option (Char × List Char) := do
  let (unit, rest) ← hexUnit? cs
  if 0xD800 ≤ unit && unit ≤ 0xDBFF then
    match rest with
    | '\\' :: 'u' :: rest' =>
      match hexUnit? rest' with
      | some (low, rest'') =>
        if 0xDC00 ≤ low && low ≤ 0xDFFF then
          some (Text.charOrReplacement (0x10000 + 0x400 * (unit - 0xD800) + (low - 0xDC00)), rest'')
        else some (Text.charOrReplacement unit, rest)
      | none => some (Text.charOrReplacement unit, rest)
    | _ => some (Text.charOrReplacement unit, rest)
  else some (Text.charOrReplacement unit, rest)

/-- The character of an escape, and what follows it, from after its backslash. -/
def escape? : List Char → Option (Char × List Char)
  | '"' :: rest => some ('"', rest)
  | '\\' :: rest => some ('\\', rest)
  | '/' :: rest => some ('/', rest)
  | 'b' :: rest => some ('\x08', rest)
  | 'f' :: rest => some ('\x0c', rest)
  | 'n' :: rest => some ('\n', rest)
  | 'r' :: rest => some ('\r', rest)
  | 't' :: rest => some ('\t', rest)
  | 'u' :: rest => unicodeEscape? rest
  | _ => none

/-- The characters of a string and what follows its closing quote, from after its opening quote; at
most `fuel` characters. -/
def stringUpTo : Nat → List Char → Except JsonFault (List Char × List Char)
  | 0, _ => .error .malformed
  | fuel + 1, cs =>
    match cs with
    | [] => .error .malformed
    | '"' :: rest => .ok ([], rest)
    | '\\' :: rest =>
      match escape? rest with
      | some (c, rest') => do
        let (chars, after) ← stringUpTo fuel rest'
        .ok (c :: chars, after)
      | none => .error .malformed
    | c :: rest =>
      if c.toNat < 0x20 then .error .malformed
      else do
        let (chars, after) ← stringUpTo fuel rest
        .ok (c :: chars, after)

/-- A string and what follows it, from after its opening quote. -/
def string (cs : List Char) : Except JsonFault (String × List Char) := do
  let (chars, after) ← stringUpTo (cs.length + 1) cs
  .ok (String.ofList chars, after)

/-! ## Numbers -/

/-- The number that plain decimal digits write. -/
def digitsValue (cs : List Char) : Nat :=
  Text.ofDigits (cs.map fun c => c.toNat - 0x30)

/-- The digits of a fraction and what follows them; none where no digit follows a point. -/
def fraction (cs : List Char) : List Char × List Char :=
  match cs with
  | '.' :: rest =>
    if (rest.takeWhile Char.isDigit).isEmpty then ([], cs)
    else (rest.takeWhile Char.isDigit, rest.dropWhile Char.isDigit)
  | _ => ([], cs)

/-- An exponent and what follows it, or `none` where there is none. -/
def exponent? (cs : List Char) : Option (Int × List Char) :=
  match cs with
  | e :: rest =>
    if e = 'e' ∨ e = 'E' then
      let (sign, rest) : Int × List Char := match rest with
        | '-' :: rest => (-1, rest)
        | '+' :: rest => (1, rest)
        | _ => (1, rest)
      let digits := rest.takeWhile Char.isDigit
      if digits.isEmpty then none
      else some (sign * digitsValue digits, rest.dropWhile Char.isDigit)
    else none
  | [] => none

/-- The number whose digits before the point are `whole`, and what follows it. -/
def numberFrom (isNegative : Bool) (whole cs : List Char) :
    Except JsonFault (JsonNumber × List Char) :=
  let sign : Int := if isNegative then -1 else 1
  let (part, rest) := fraction cs
  match part, exponent? rest with
  | [], none =>
    if whole.length ≤ Text.maxDigits then .ok (.decimal (sign * digitsValue whole) 0, rest)
    else .error .integerTooLong
  | _, some (exponent, rest') =>
    .ok (.decimal (sign * digitsValue (whole ++ part)) (exponent - part.length), rest')
  | _, none => .ok (.decimal (sign * digitsValue (whole ++ part)) (-part.length), rest)

/-- A number without its sign, and what follows it. -/
def unsigned (isNegative : Bool) (cs : List Char) : Except JsonFault (JsonNumber × List Char) :=
  match cs with
  | '0' :: rest => numberFrom isNegative ['0'] rest
  | c :: _ =>
    if c.isDigit then
      numberFrom isNegative (cs.takeWhile Char.isDigit) (cs.dropWhile Char.isDigit)
    else
      match "Infinity".toList.isPrefixOf? cs with
      | some rest => .ok (.unbounded, rest)
      | none => .error .malformed
  | [] => .error .malformed

/-- A value that starts with neither a quote nor a bracket, and what follows it. -/
def scalar (cs : List Char) : Except JsonFault (JsonValue × List Char) :=
  let words : List (String × JsonValue) :=
    [("null", .null), ("true", .bool true), ("false", .bool false), ("NaN", .number .unbounded)]
  match words.findSome? fun (word, v) => (word.toList.isPrefixOf? cs).map (v, ·) with
  | some (v, rest) => .ok (v, rest)
  | none =>
    (match cs with
      | '-' :: rest => unsigned true rest
      | _ => unsigned false cs).map fun (n, rest) => (.number n, rest)

/-! ## Values -/

mutual

/-- A value and what follows it; values nest and follow one another at most `fuel` times. -/
def value : Nat → List Char → Except JsonFault (JsonValue × List Char)
  | 0, _ => .error .malformed
  | fuel + 1, cs =>
    match cs with
    | '"' :: rest => do
      let (s, after) ← string rest
      .ok (.string s, after)
    | '[' :: rest =>
      match skipBlanks rest with
      | ']' :: after => .ok (.array [], after)
      | start => do
        let (items, after) ← items fuel start
        .ok (.array items, after)
    | '\x7b' :: rest =>
      match skipBlanks rest with
      | '\x7d' :: after => .ok (.object [], after)
      | start => do
        let (fields, after) ← fields fuel start
        .ok (.object fields, after)
    | _ => scalar cs

/-- The items of an array and what follows it, from the start of an item. -/
def items : Nat → List Char → Except JsonFault (List JsonValue × List Char)
  | 0, _ => .error .malformed
  | fuel + 1, cs => do
    let (v, rest) ← value fuel cs
    match skipBlanks rest with
    | ']' :: after => .ok ([v], after)
    | ',' :: rest' =>
      let (vs, after) ← items fuel (skipBlanks rest')
      .ok (v :: vs, after)
    | _ => .error .malformed

/-- The fields of an object and what follows it, from the start of a field. -/
def fields : Nat → List Char → Except JsonFault (List (String × JsonValue) × List Char)
  | 0, _ => .error .malformed
  | fuel + 1, cs =>
    match cs with
    | '"' :: rest => do
      let (name, rest') ← string rest
      match skipBlanks rest' with
      | ':' :: start =>
        let (v, end') ← value fuel (skipBlanks start)
        match skipBlanks end' with
        | '\x7d' :: after => .ok ([(name, v)], after)
        | ',' :: next =>
          let (vs, after) ← fields fuel (skipBlanks next)
          .ok ((name, v) :: vs, after)
        | _ => .error .malformed
      | _ => .error .malformed
    | _ => .error .malformed

end

end JsonReader

/-- The value that a JSON text writes. -/
def JsonValue.parse (cs : List Char) : Except JsonFault JsonValue := do
  let (v, rest) ← JsonReader.value (cs.length + 1) (JsonReader.skipBlanks cs)
  if (JsonReader.skipBlanks rest).isEmpty then .ok v else .error .malformed

end Requisite
