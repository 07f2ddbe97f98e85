/-!
# Grades

The grades that a requirement may ask for, with the text that stands for each and its name.
-/

namespace Requisite

/-- A letter grade. -/
inductive Grade where
  | aPlus | a | aMinus
  | bPlus | b | bMinus
  | cPlus | c | cMinus
  | dPlus | d | dMinus
  | f
  deriving DecidableEq, Repr

namespace Grade

/-- All grades, the best first. -/
def all : List Grade :=
  [.aPlus, .a, .aMinus, .bPlus, .b, .bMinus, .cPlus, .c, .cMinus, .dPlus, .d, .dMinus, .f]

/-- The grade as it is written. -/
def text : Grade → String
  | aPlus => "A+" | a => "A" | aMinus => "A-"
  | bPlus => "B+" | b => "B" | bMinus => "B-"
  | cPlus => "C+" | c => "C" | cMinus => "C-"
  | dPlus => "D+" | d => "D" | dMinus => "D-"
  | f => "F"

/-- The name of the grade. -/
def name : Grade → String
  | aPlus => "A_PLUS" | a => "A" | aMinus => "A_MINUS"
  | bPlus => "B_PLUS" | b => "B" | bMinus => "B_MINUS"
  | cPlus => "C_PLUS" | c => "C" | cMinus => "C_MINUS"
  | dPlus => "D_PLUS" | d => "D" | dMinus => "D_MINUS"
  | f => "F"

/-- The grade that a text writes. -/
def ofText? (s : String) : Option Grade :=
  all.find? fun g => g.text = s

/-- Every grade is read back from its text. -/
theorem ofText?_text (g : Grade) : ofText? g.text = some g := by
  cases g <;> decide

end Grade

end Requisite
