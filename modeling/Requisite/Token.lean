import Requisite.Leaf

/-!
# Tokens

A written expression is cut into brackets, connectives and leaves. Brackets and connectives count
only between leaves: inside a leaf everything up to the brace that opens its block is the id, and
everything up to the brace that closes it is the block. A leaf that is still open where the text
ends is dropped.
-/

namespace Requisite

/-- The kinds of token. -/
inductive TokenKind where
  | requisite
  | leftParen
  | rightParen
  | and
  | or
  /-- The end of the text. -/
  | stop
  deriving DecidableEq, Repr

/-- The name of a kind of token in a message. -/
def TokenKind.name : TokenKind → String
  | .requisite => "REQUISITE"
  | .leftParen => "LEFT_PAREN"
  | .rightParen => "RIGHT_PAREN"
  | .and => "AND"
  | .or => "OR"
  | .stop => "END"

/-- A token: what it is, the text it covers, and how many characters stand before it. -/
structure Token where
  kind : TokenKind
  value : String
  position : Nat
  deriving DecidableEq, Repr

/-- The kind of token that a character is by itself between leaves. -/
def structural? : Char → Option TokenKind
  | '(' => some .leftParen
  | ')' => some .rightParen
  | '&' => some .and
  | '|' => some .or
  | _ => none

/-- Where a scan stands. Inside a leaf it holds the position of the leaf's first character and the
characters read so far, the latest first. -/
inductive ScanState where
  /-- Between leaves. -/
  | between
  /-- In the id of a leaf. -/
  | inId (start : Nat) (text : List Char)
  /-- In the block of a leaf. -/
  | inBlock (start : Nat) (text : List Char)
  deriving DecidableEq, Repr

/-- The tokens that a scan finds from a state on, `position` characters into the text. -/
def scan : ScanState → Nat → List Char → List Token
  | _, _, [] => []
  | .between, position, c :: cs =>
    match structural? c with
    | some kind => ⟨kind, String.singleton c, position⟩ :: scan .between (position + 1) cs
    | none => scan (.inId position [c]) (position + 1) cs
  | .inId start text, position, c :: cs =>
    if c = blockStart then scan (.inBlock start (c :: text)) (position + 1) cs
    else scan (.inId start (c :: text)) (position + 1) cs
  | .inBlock start text, position, c :: cs =>
    if c = blockEnd then
      ⟨.requisite, String.ofList (c :: text).reverse, start⟩ :: scan .between (position + 1) cs
    else scan (.inBlock start (c :: text)) (position + 1) cs

section

variable {start position : Nat} {text cs : List Char} {c : Char}

/-- Between leaves, a character is a token by itself or starts a leaf. -/
theorem scan_between :
    scan .between position (c :: cs) =
      match structural? c with
      | some kind => ⟨kind, String.singleton c, position⟩ :: scan .between (position + 1) cs
      | none => scan (.inId position [c]) (position + 1) cs := rfl

/-- In an id, a character opens the block or is one more of the id. -/
theorem scan_inId :
    scan (.inId start text) position (c :: cs) =
      if c = blockStart then scan (.inBlock start (c :: text)) (position + 1) cs
      else scan (.inId start (c :: text)) (position + 1) cs := rfl

/-- In a block, a character ends the leaf or is one more of the block. -/
theorem scan_inBlock :
    scan (.inBlock start text) position (c :: cs) =
      if c = blockEnd then
        ⟨.requisite, String.ofList (c :: text).reverse, start⟩ :: scan .between (position + 1) cs
      else scan (.inBlock start (c :: text)) (position + 1) cs := rfl

end

/-- The tokens of an expression, without its end. -/
def tokens (expression : String) : List Token :=
  scan .between 0 expression.toList

/-- The token that stands for the end of an expression. -/
def stopToken (expression : String) : Token :=
  ⟨.stop, "$", expression.length⟩

/-- The tokens of an expression, its end included. -/
def tokenize (expression : String) : List Token :=
  tokens expression ++ [stopToken expression]

end Requisite
