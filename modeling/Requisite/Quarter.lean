import Requisite.Text.Numeral

/-!
# Quarters

A quarter is known by a code: the year, then a letter for the term. Its rank puts quarters in the
order of the calendar; codes of another shape come after all years.
-/

namespace Requisite

/-- A quarter that the schedule offers. -/
structure Quarter where
  code : String
  name : String
  deriving DecidableEq, Repr

/-- Where a quarter stands: the year, then the place of its term within the year. -/
structure QuarterRank where
  year : Int
  term : Nat
  deriving DecidableEq, Repr

/-- The place of a term within the year: winter, spring, summer, fall, then any other. Case does
not matter, and the long `ſ` is an `s`. -/
def termOrder (term : Char) : Nat :=
  if term = 'W' ∨ term = 'w' then 1
  else if term = 'S' ∨ term = 's' ∨ term = 'ſ' then 2
  else if term = '1' then 3
  else if term = 'F' ∨ term = 'f' then 4
  else 9

/-- The rank of a code without a year. -/
def QuarterRank.unknown : QuarterRank := ⟨1000000, 0⟩

/-- The rank of a quarter by its code. -/
def quarterRank (code : String) : QuarterRank :=
  let cs := Text.trimWhile Text.isBlank code.toList
  match cs.getLast?, Text.integer? (String.ofList cs.dropLast) with
  | some term, some year => ⟨year, termOrder term⟩
  | _, _ => .unknown

/-- The order of ranks: by year, and within a year by term. -/
def QuarterRank.le (a b : QuarterRank) : Bool :=
  a.year < b.year || (a.year == b.year && a.term ≤ b.term)

end Requisite
