import Requisite.FirstArrival
import Requisite.Text.Blank

/-!
# Subject areas and their names

A requirement names a subject area in words, and the graph knows it by its code. The index from
names to codes is fixed for a run.
-/

namespace Requisite

/-- A subject area, by its code and its name. -/
structure SubjectArea where
  code : String
  name : String
  deriving DecidableEq, Repr

/-- The subject areas that names are looked up in, no two of one name. -/
structure SubjectIndex where
  areas : List SubjectArea := []
  deriving DecidableEq, Repr

namespace SubjectIndex

/-- The subject area for a pair of code and name, where neither is missing or blank. -/
def area? (code name : Option String) : Option SubjectArea :=
  let code := Text.trim (code.getD "")
  let name := Text.trim (name.getD "")
  if code.isEmpty || name.isEmpty then none else some { code, name }

/-- The index over pairs of code and name; of two areas of one name the first counts. -/
def ofPairs (pairs : List (Option String × Option String)) : SubjectIndex :=
  ⟨firsts SubjectArea.name (pairs.filterMap fun (code, name) => area? code name)⟩

/-- The number of names in the index. -/
def size (index : SubjectIndex) : Nat :=
  index.areas.length

/-- The code of the subject area with a name, blanks around the name aside. -/
def codeFor? (index : SubjectIndex) (name : String) : Option String :=
  (index.areas.find? fun area => area.name = Text.trim name).map SubjectArea.code

end SubjectIndex

end Requisite
