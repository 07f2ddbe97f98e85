import Requisite.Page.Reference
import Requisite.Page.Tag

/-!
# Markup

A page is a sequence of pieces: tags, texts, comments and marked sections. It is swept twice. The
first sweep halts at the first markup that the page breaks off; the second goes on from there and
takes broken markup as text, up to the next bracket. What is left where the second sweep halts is
text too.
-/

namespace Requisite.Page

/-- A piece of a page. -/
inductive Piece where
  /-- A start tag; `slash` where it ends in a slash. -/
  | start (name : String) (attributes : List (String × String)) (slash : Bool)
  /-- An end tag. -/
  | stop (name : String)
  /-- Text, its references replaced. Texts in a row are one text. -/
  | text (cs : List Char)
  /-- A section of characters, which is a text of its own. -/
  | characters (cs : List Char)
  /-- A comment or a declaration. -/
  | comment

/-- What stands at a bracket or an ampersand of a page. -/
inductive Opening where
  /-- Some pieces, with the text after them. -/
  | whole (pieces : List Piece) (rest : List Char)
  /-- Markup that the page breaks off. -/
  | unfinished
  /-- A sign that may not be all there: the pieces before it, and the text from it on. -/
  | broken (pieces : List Piece) (rest : List Char)

/-! ## Comments and sections -/

/-- What follows a comment, from after its opening, or `none` where it is not closed. -/
def afterComment? : List Char → Option (List Char)
  | [] => none
  | c :: cs =>
    match c, cs with
    | '-', '-' :: rest =>
      match rest.dropWhile Text.isBlank with
      | '>' :: after => some after
      | _ => afterComment? cs
    | _, _ => afterComment? cs

/-- A comment, from after its opening. -/
def readComment (cs : List Char) : Opening :=
  match afterComment? cs with
  | some rest => .whole [.comment] rest
  | none => .unfinished

/-- A declaration, which ends at the first bracket. -/
def readDeclaration (cs : List Char) : Opening :=
  match cutAt? '>' cs with
  | some (_, rest) => .whole [.comment] rest
  | none => .unfinished

/-- What follows the mark that ends a section, where the text starts with it: some square brackets,
each perhaps before blanks, and a closing one. -/
def afterBrackets? : Nat → List Char → Option (List Char)
  | 0, '>' :: cs => some cs
  | count + 1, ']' :: cs => afterBrackets? count (cs.dropWhile Text.isBlank)
  | _, _ => none

/-- What stands in a section, after the characters `done` in reverse, and what follows it, where its
end has `count` square brackets. -/
def cutSection? (count : Nat) : List Char → List Char → Option (List Char × List Char)
  | _, [] => none
  | done, c :: cs =>
    match afterBrackets? count (c :: cs) with
    | some rest => some (done.reverse, rest)
    | none => cutSection? count (c :: done) cs

/-- How many square brackets end a section of a kind, or `none` where there is no such kind. -/
def sectionBrackets? (kind : String) : Option Nat :=
  if ["temp", "cdata", "ignore", "include", "rcdata"].contains kind then some 2
  else if ["if", "else", "endif"].contains kind then some 1
  else none

/-- The opening of a section whose inside is text. -/
def charactersMark : List Char := "CDATA[".toList

/-- A section as a piece. -/
def sectionPiece (content : List Char) : Piece :=
  if (content.take charactersMark.length).map Char.toUpper = charactersMark then
    .characters (content.drop charactersMark.length)
  else .comment

/-- A marked section, from after its opening. -/
def readSection (cs : List Char) : Except MarkupFault Opening :=
  let isPart (c : Char) : Bool := c.isAlphanum || c == '-' || c == '_' || c == '.'
  match cs.head? with
  | none => .ok .unfinished
  | some c =>
    if !c.isAlpha then .error .unknownSection
    else if ((cs.dropWhile isPart).dropWhile Text.isBlank).isEmpty then .ok .unfinished
    else
      match sectionBrackets? (lowerName (cs.takeWhile isPart)) with
      | none => .error .unknownSection
      | some count =>
        match cutSection? count [] cs with
        | some (content, rest) => .ok (.whole [sectionPiece content] rest)
        | none => .ok .unfinished

/-! ## Tags -/

/-- The piece that an end tag with something in it is. A name may stand after blanks if only blanks
follow it; anything may follow a name that stands first. What has no name is a comment. -/
def endPiece (inside : List Char) : Piece :=
  let isPart (c : Char) : Bool := c.isAlphanum || "-.:_".toList.contains c
  let trimmed := inside.dropWhile Text.isBlank
  if trimmed.head?.any Char.isAlpha && (trimmed.dropWhile isPart).all Text.isBlank then
    .stop (lowerName (trimmed.takeWhile isPart))
  else if inside.head?.any Char.isAlpha then
    .stop (lowerName (inside.takeWhile fun c => !endsTagName c))
  else .comment

/-- An end tag, from after its slash. One without anything in it is passed over. -/
def readEnd (cs : List Char) : Opening :=
  match cutAt? '>' cs with
  | none => .unfinished
  | some ([], rest) => .whole [] rest
  | some (inside, rest) => .whole [endPiece inside] rest

/-- The elements whose inside is no markup. -/
def rawNames : List String := ["script", "style"]

/-- What follows the end tag that closes raw content of the given name, or nothing without one. -/
def afterRaw (name : String) : List Char → List Char
  | [] => []
  | c :: cs =>
    let rest := (cs.drop 1).dropWhile Text.isBlank
    let closes := c == '<' && cs.head? == some '/' &&
      (rest.take name.length).map Char.toLower == name.toList
    match closes, (rest.drop name.length).dropWhile Text.isBlank with
    | true, '>' :: after => after
    | _, _ => afterRaw name cs

/-- The pieces that a start tag stands for, with the text after it. The inside of a raw element is
passed over with its end tag. -/
def openTag (tag : Tag) (rest : List Char) : Except MarkupFault Opening := do
  let attributes ← tag.attributes.mapM fun (name, value) => do
    return (name, String.ofList (← decodeValue value))
  let start := Piece.start tag.name attributes tag.slash
  if rawNames.contains tag.name && !tag.slash then
    return .whole [start, .stop tag.name] (afterRaw tag.name rest)
  else return .whole [start] rest

/-- A start tag, from after its bracket; at most `fuel` attributes. -/
def readStart (fuel : Nat) (cs : List Char) : Except MarkupFault Opening :=
  match readTag fuel cs with
  | .whole tag rest => openTag tag rest
  | .severed name rest => .ok (.whole [.text ('<' :: name)] rest)
  | .unfinished => .ok .unfinished

/-! ## Sweeps -/

/-- What stands at a bracket, from after it; a start tag has at most `fuel` attributes. -/
def readMarkup (fuel : Nat) : List Char → Except MarkupFault Opening
  | [] => .ok (.broken [] ['<'])
  | '/' :: cs => .ok (readEnd cs)
  | '!' :: '-' :: '-' :: cs => .ok (readComment cs)
  | '!' :: '[' :: cs => readSection cs
  | '!' :: cs => .ok (readDeclaration cs)
  | '?' :: cs => .ok (readDeclaration cs)
  | c :: cs =>
    if c.isAlpha then readStart fuel (c :: cs) else .ok (.whole [.text ['<']] (c :: cs))

/-- The text piece for some characters, where there are any. -/
def textPieces (cs : List Char) : List Piece :=
  if cs.isEmpty then [] else [.text cs]

/-- What stands at an ampersand, from after it. -/
def readAmpersand (cs : List Char) : Except MarkupFault Opening :=
  (readReference cs).map fun
    | .chars chars rest => .whole (textPieces chars) rest
    | .broken chars rest => .broken (textPieces chars) rest

/-- A character that starts no markup. -/
def isPlain (c : Char) : Bool := c != '<' && c != '&'

/-- What a text starts with; a start tag has at most `fuel` attributes. -/
def readOpening (fuel : Nat) : List Char → Except MarkupFault Opening
  | '<' :: cs => readMarkup fuel cs
  | '&' :: cs => readAmpersand cs
  | cs => .ok (.whole (textPieces (cs.takeWhile isPlain)) (cs.dropWhile isPlain))

/-- The text that broken markup is, from after its bracket, and what follows it: up to the bracket
that could close it, else up to one that could open more, else the bracket alone. -/
def cutUnfinished (cs : List Char) : List Char × List Char :=
  match cutAt? '>' cs with
  | some (before, rest) => (before ++ ['>'], rest)
  | none => if cs.contains '<' then (cs.takeWhile (· != '<'), cs.dropWhile (· != '<')) else ([], cs)

/-- The pieces that a sweep finds in at most `fuel` steps, after the pieces `done`, the latest
first, and the text at which it halts. The last sweep does not halt at broken markup. -/
def sweepUpTo (isLast : Bool) :
    Nat → List Piece → List Char → Except MarkupFault (List Piece × List Char)
  | 0, done, cs => .ok (done, cs)
  | _, done, [] => .ok (done, [])
  | fuel + 1, done, c :: cs =>
    match readOpening fuel (c :: cs) with
    | .error fault => .error fault
    | .ok (.whole found rest) => sweepUpTo isLast fuel (found.reverse ++ done) rest
    | .ok (.broken found rest) => .ok (found.reverse ++ done, rest)
    | .ok .unfinished =>
      if isLast then
        let (before, rest) := cutUnfinished cs
        sweepUpTo isLast fuel (.text (c :: before) :: done) rest
      else .ok (done, c :: cs)

/-- The text that the last sweep leaves; a lone letter after an ampersand is left without it. -/
def leftText : List Char → List Char
  | ['&', c] => if c.isAlpha then [c] else ['&', c]
  | cs => cs

/-- The pieces of a page. -/
def pieces (page : List Char) : Except MarkupFault (List Piece) := do
  let fuel := page.length + 1
  let (done, rest) ← sweepUpTo false fuel [] page
  let (done, rest) ← sweepUpTo true fuel done rest
  return (textPieces (leftText rest) ++ done).reverse

end Requisite.Page
