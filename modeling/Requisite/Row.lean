import Requisite.Subject
import Requisite.Leaf

/-!
# Requisite rows

A course page lists its requisites in rows of a table. The rows together write one expression in
words: each names a requirement, with the brackets that open before it and close after it, and ends
in the connective to the next row. Encoding the rows gives the written expression.
-/

namespace Requisite

/-- One row of the requisites table. -/
structure Row where
  /-- The requirement in words, with brackets and connective. -/
  expression : String
  minimumGrade : String := ""
  prereq : Bool := false
  coreq : Bool := false
  enforced : Bool := false
  deriving DecidableEq, Repr

/-- What the words of a row say. -/
structure RowParts where
  /-- How many brackets open before the requirement. -/
  opening : Nat
  /-- The requirement, without the brackets around it. -/
  core : List Char
  /-- How many brackets close after it. -/
  closing : Nat
  /-- The connective to the next row. -/
  connective : Option Connective
  deriving DecidableEq, Repr

namespace Row

/-- The text before a connective at its end, and the connective. -/
def splitConnective (text : List Char) : List Char × Option Connective :=
  match Text.dropEnding? [' ', 'a', 'n', 'd'] text with
  | some before => (before, some .and)
  | none =>
    match Text.dropEnding? [' ', 'o', 'r'] text with
    | some before => (before, some .or)
    | none => (text, none)

/-- An opening bracket or a space. -/
def isOpening (c : Char) : Bool := c == '(' || c == ' '

/-- A closing bracket or a space. -/
def isClosing (c : Char) : Bool := c == ')' || c == ' '

/-- A bracket or a space. -/
def isBracket (c : Char) : Bool := isOpening c || isClosing c

/-- The parts of a row. -/
def parts (row : Row) : RowParts :=
  let (text, connective) := splitConnective (Text.trimWhile Text.isBlank row.expression.toList)
  let stripped := Text.trimWhile Text.isBlank text
  let left := stripped.dropWhile isOpening
  let core := Text.dropRightWhile isClosing left
  { opening := (stripped.takeWhile isOpening).count '('
    core
    closing := (left.drop core.length).count ')'
    connective }

/-- The id of a requirement in words, and whether it is a course: where the words before the last
one name a subject area with a code that is not empty, it is the course of that area with the last
word as its catalog number. -/
def requirement (index : SubjectIndex) (core : List Char) : String × Bool :=
  let words := Text.trimWhile isBracket core
  match Text.cutLast? ' ' words with
  | some (area, catalog) =>
    match index.codeFor? (String.ofList area) with
    | some code =>
      if code.isEmpty then (String.ofList words, false)
      else (courseNodeId code (String.ofList catalog), true)
    | none => (String.ofList words, false)
  | none => (String.ofList words, false)

/-- The leaf of a row. -/
def leaf (index : SubjectIndex) (row : Row) : Leaf :=
  let (id, isCourse) := requirement index row.parts.core
  { id
    flags :=
      { isCourse
        isEnforced := row.enforced
        isPrereq := row.prereq
        isCoreq := row.coreq
        minimumGrade := Text.trim row.minimumGrade } }

/-- The written form of a row: its brackets around its leaf, then its connective. -/
def encode (index : SubjectIndex) (row : Row) : String :=
  let parts := row.parts
  String.ofList (List.replicate parts.opening '(' ++ (row.leaf index).encode.toList ++
    List.replicate parts.closing ')' ++ (parts.connective.map Connective.symbol).toList)

/-- The expression that the rows write, empty without rows. -/
def encodeAll (index : SubjectIndex) (rows : List Row) : String :=
  String.join (rows.map (encode index))

end Row

end Requisite
