import Requisite.Graph
import Requisite.Text.Cut

/-!
# Leaves

The written form of a single requirement: its id, then a block in braces that holds four flag
characters and the minimum grade. `Leaf.encode` writes a leaf and `Leaf.decode` reads one back; what
it refuses, it refuses for one of five reasons, looked for in a fixed order.
-/

namespace Requisite

/-- A single requirement. -/
structure Leaf where
  id : String
  flags : Flags
  deriving DecidableEq, Repr

/-- Why a text is no written leaf. -/
inductive LeafFault where
  /-- The text has no block. -/
  | noBlock
  /-- Nothing stands before the block. -/
  | noId
  /-- The block is not closed at the end of the text. -/
  | openBlock
  /-- The block has only `count` characters. -/
  | fewFlags (count : Nat)
  /-- A flag is written as `c`. -/
  | badFlag (c : Char)
  deriving DecidableEq, Repr

/-- The character that opens the block of a leaf. -/
abbrev blockStart : Char := '\x7b'

/-- The character that closes the block of a leaf. -/
abbrev blockEnd : Char := '\x7d'

/-- The written form of a flag. -/
def flagChar (b : Bool) : Char :=
  if b then 't' else 'f'

/-- The flag that a character writes. -/
def readFlag (c : Char) : Except LeafFault Bool :=
  if c = 't' then .ok true else if c = 'f' then .ok false else .error (.badFlag c)

/-- The flags and the grade that the inside of a block writes. -/
def Flags.decode : List Char → Except LeafFault Flags
  | c₁ :: c₂ :: c₃ :: c₄ :: grade => do
    let isCourse ← readFlag c₁
    let isEnforced ← readFlag c₂
    let isPrereq ← readFlag c₃
    let isCoreq ← readFlag c₄
    .ok { isCourse, isEnforced, isPrereq, isCoreq, minimumGrade := String.ofList grade }
  | block => .error (.fewFlags block.length)

/-- The inside of the block for the flags and the grade. -/
def Flags.encode (f : Flags) : List Char :=
  flagChar f.isCourse :: flagChar f.isEnforced :: flagChar f.isPrereq :: flagChar f.isCoreq ::
    f.minimumGrade.toList

/-- The leaf that a text writes. -/
def Leaf.decode (text : String) : Except LeafFault Leaf :=
  match Text.cut? [blockStart] text.toList with
  | none => .error .noBlock
  | some (id, rest) =>
    if id.isEmpty then .error .noId
    else if rest.getLast? = some blockEnd then
      (Flags.decode rest.dropLast).map fun flags => ⟨String.ofList id, flags⟩
    else .error .openBlock

/-- The written form of a leaf. -/
def Leaf.encode (l : Leaf) : String :=
  String.ofList (l.id.toList ++ blockStart :: (l.flags.encode ++ [blockEnd]))

/-- The course that a leaf names: it is marked as one, and its id is a subject area and a catalog
number, neither of them empty, with the first number sign between them. -/
def Leaf.course? (l : Leaf) : Option Course :=
  if l.flags.isCourse then
    match Text.cut? ['#'] l.id.toList with
    | some (subject, catalog) =>
      if subject.isEmpty || catalog.isEmpty then none
      else some { subject := String.ofList subject, catalog := String.ofList catalog }
    | none => none
  else none

/-- A written flag is read back. -/
@[simp] theorem readFlag_flagChar (b : Bool) : readFlag (flagChar b) = .ok b := by
  cases b <;> rfl

/-- The inside of a block is read back. -/
@[simp] theorem Flags.decode_encode (f : Flags) : Flags.decode f.encode = .ok f := by
  simp [Flags.decode, Flags.encode, bind, Except.bind]

end Requisite
