import Requisite.Notice
import Requisite.Text.Blank
import Requisite.Text.Numeral

/-!
# Catalog numbers in query form

A catalog number is letters, a number, and letters again. A query names it with the number first,
padded to four digits, then the letters after it and the letters before it, each padded to two
places: `M51A` is written `0051A M `.
-/

namespace Requisite

/-- The parts of a catalog number that a query names. -/
structure CatalogNumber where
  /-- The letters before the number. -/
  before : List Char
  /-- The digits of the number, of any script. -/
  digits : List Char
  /-- The letters after the number. -/
  after : List Char
  deriving DecidableEq, Repr

namespace CatalogNumber

/-- A plain capital letter. -/
def isCapital (c : Char) : Bool :=
  'A' ≤ c && c ≤ 'Z'

/-- A decimal digit of any script. -/
def isDigit (c : Char) : Bool :=
  (Text.digitValue? c).isSome

/-- The parts at the start of a text; what follows them is left out. -/
def ofList (cs : List Char) : CatalogNumber :=
  let before := cs.takeWhile isCapital
  let afterLetters := cs.dropWhile isCapital
  let digits := afterLetters.takeWhile isDigit
  { before, digits, after := (afterLetters.dropWhile isDigit).takeWhile isCapital }

/-- The parts that a written catalog number starts with. -/
def ofText (catalog : String) : CatalogNumber :=
  ofList (Text.trimWhile Text.isBlank catalog.toList)

/-- The text filled up with spaces to two places. -/
def padTwo (cs : List Char) : List Char :=
  cs ++ List.replicate (2 - cs.length) ' '

/-- The query form of a catalog number, or `none` where its number has too many digits. Without
digits the number is zero, and the letters count as those after it. -/
def queryForm? (n : CatalogNumber) : Option (List Char) :=
  if n.digits.isEmpty then
    some (Text.paddedDecimal 4 0 ++ padTwo n.before ++ padTwo [])
  else
    (Text.natural? n.digits).map fun number =>
      Text.paddedDecimal 4 number ++ padTwo n.after ++ padTwo n.before

end CatalogNumber

/-- The query form of a written catalog number, or `none` where its number has too many digits. -/
def formatCatalogNumber? (catalog : String) : Option String :=
  (CatalogNumber.ofText catalog).queryForm?.map String.ofList

/-- What formatting a catalog number reports. -/
def catalogNotices (catalog : String) : List Notice :=
  if (CatalogNumber.ofText catalog).digits.isEmpty then [.noDigits catalog] else []

example : formatCatalogNumber? " M51A " = some "0051A M " := by decide
example : formatCatalogNumber? "CM182" = some "0182  CM" := by decide
example : formatCatalogNumber? "XL" = some "0000XL  " := by decide

end Requisite
