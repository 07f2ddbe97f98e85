import Requisite.Text.Blank
import Requisite.Text.Lower

/-!
# Start tags

A start tag is a name, then attributes, and a closing bracket, perhaps after a slash. Blanks and
slashes stand between the attributes. An attribute is a name and, after an equals sign, a value,
which is quoted or ends at a blank. A tag that the text breaks off is no tag.
-/

namespace Requisite.Page

/-- A start tag. -/
structure Tag where
  name : String
  /-- The attributes in order; references in their values are not yet replaced. -/
  attributes : List (String × List Char)
  /-- Whether a slash stands before the closing bracket. -/
  slash : Bool

/-- A name, which is in lower case. -/
def lowerName (cs : List Char) : String :=
  String.ofList (Text.lower cs)

/-- The parts before and after the first `c`, or `none` without one. -/
def cutAt? (c : Char) (cs : List Char) : Option (List Char × List Char) :=
  match cs.dropWhile (· != c) with
  | [] => none
  | _ :: after => some (cs.takeWhile (· != c), after)

/-! ## Attributes -/

/-- A quotation mark. -/
def isQuote (c : Char) : Bool := c == '"' || c == '\''

/-- The text without the blanks and slashes at its start, up to the end of the tag. -/
def dropFiller : List Char → List Char
  | '/' :: '>' :: cs => '/' :: '>' :: cs
  | c :: cs => if c == '/' || Text.isBlank c then dropFiller cs else c :: cs
  | [] => []

/-- Whether blanks or slashes stand at the start of the text. -/
def hasFiller : List Char → Bool
  | c :: _ => c == '/' || Text.isBlank c
  | [] => false

/-- A value without quotes, and what follows it. -/
def bareValue (cs : List Char) : List Char × List Char :=
  let isPart (c : Char) : Bool := c != '>' && !Text.isBlank c
  (cs.takeWhile isPart, cs.dropWhile isPart)

/-- The value of an attribute and what follows it, from after the name of the attribute; `none`
where it has no value. A quotation mark that is not closed belongs to no value: after a blank the
value before it is empty, and after several equals signs the last of them starts a bare value. -/
def attributeValue? (cs : List Char) : Option (List Char × List Char) :=
  match cs.dropWhile Text.isBlank with
  | '=' :: signs =>
    let afterSigns := signs.dropWhile (· == '=')
    match afterSigns.dropWhile Text.isBlank with
    | [] => some ([], [])
    | c :: inside =>
      if isQuote c then
        match cutAt? c inside with
        | some parts => some parts
        | none =>
          if afterSigns.head?.any Text.isBlank then some ([], c :: inside)
          else if signs.head? = some '=' then some (bareValue ('=' :: afterSigns))
          else none
      else some (bareValue (c :: inside))
  | _ => none

/-- The attributes of a start tag, whether a slash ends it, and what follows it; at most `fuel`
attributes. An attribute starts after a blank, a slash or a quotation mark; `mayStart` says whether
one of them stands before the text. -/
def attributesUpTo :
    Nat → Bool → List Char → Option (List (String × List Char) × Bool × List Char)
  | 0, _, _ => none
  | fuel + 1, mayStart, cs =>
    match dropFiller cs with
    | [] => none
    | '>' :: rest => some ([], false, rest)
    | '/' :: '>' :: rest => some ([], true, rest)
    | c :: rest =>
      if mayStart || hasFiller cs then
        let isPart (c : Char) : Bool := !(c == '/' || c == '=' || c == '>' || Text.isBlank c)
        let tail := rest.takeWhile isPart
        let afterName := rest.dropWhile isPart
        let (value, mayStart, after) := match attributeValue? afterName with
          | some (value, after) => (value, true, after)
          | none => ([], isQuote (tail.getLast?.getD c), afterName)
        (attributesUpTo fuel mayStart after).map fun (attributes, slash, after) =>
          ((lowerName (c :: tail), value) :: attributes, slash, after)
      else none

/-! ## Tags -/

/-- What stands at a bracket before a letter. -/
inductive TagReading where
  /-- A tag, with the text after it. -/
  | whole (tag : Tag) (rest : List Char)
  /-- A name that a NUL cuts short; it is text with its bracket, and so is the NUL. -/
  | severed (name rest : List Char)
  /-- A tag that the text breaks off. -/
  | unfinished

/-- A character that ends the name of a tag. -/
def endsTagName (c : Char) : Bool :=
  "\t\n\r\x0c />\x00".toList.contains c

/-- The start tag at a bracket, from after it, where a letter stands; at most `fuel` attributes. -/
def readTag (fuel : Nat) (cs : List Char) : TagReading :=
  let name := cs.takeWhile fun c => !endsTagName c
  let afterName := cs.dropWhile fun c => !endsTagName c
  let mayStart := name.getLast?.any fun c => isQuote c || Text.isBlank c
  if afterName.head? = some '\x00' && !mayStart then .severed name afterName
  else
    match attributesUpTo fuel mayStart afterName with
    | some (attributes, slash, rest) => .whole ⟨lowerName name, attributes, slash⟩ rest
    | none => .unfinished

end Requisite.Page
