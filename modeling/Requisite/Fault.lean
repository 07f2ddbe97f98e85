import Requisite.Token
import Requisite.Text.Quoted

/-!
# Why an expression is refused

The causes for which a written expression has no graph, and the message for each.
-/

namespace Requisite

/-- The message part for a fault of a leaf. -/
def LeafFault.message : LeafFault → String
  | .noBlock => "missing '\x7b'"
  | .noId => "empty node id"
  | .openBlock => "missing closing '\x7d'"
  | .fewFlags count => "expected 4 flag characters, got " ++ toString count
  | .badFlag c =>
    "flag character " ++ Text.quoted (String.singleton c) ++ " is neither 't' nor 'f'"

/-- The two lists of the grammar that have members. -/
inductive Production where
  | expression
  | term
  deriving DecidableEq, Repr

/-- The name of a production in a message. -/
def Production.name : Production → String
  | .expression => "Expression"
  | .term => "Term"

/-- Why an expression has no graph. -/
inductive ExprFault where
  /-- A requirement is no written leaf. -/
  | malformedLeaf (text : String) (fault : LeafFault)
  /-- A token of another kind is needed. -/
  | unexpectedToken (expected : List TokenKind) (found : Token)
  /-- A production has no members. -/
  | emptyProduction (production : Production)
  /-- Tokens follow a complete expression. -/
  | unconsumedInput (found : Token)
  deriving DecidableEq, Repr

/-- A token as a message shows it. -/
def Token.shown (t : Token) : String :=
  t.kind.name ++ " " ++ Text.quoted t.value ++ " at position " ++ toString t.position

/-- The message for a refused expression. -/
def ExprFault.message : ExprFault → String
  | .malformedLeaf text fault =>
    "Malformed requisite leaf " ++ Text.quoted text ++ ": " ++ fault.message
  | .unexpectedToken expected found =>
    "Expected " ++ " or ".intercalate (expected.map TokenKind.name) ++ " but found " ++ found.shown
  | .emptyProduction production => production.name ++ " has no members"
  | .unconsumedInput found => "Unconsumed input starting with " ++ found.shown

end Requisite
