import Requisite.Fault

/-!
# Failures

Why a fetch, a page or an expression yields nothing. Failures of the network, of a page's shape and
of an expression are foreseen: a run reports them and goes on. All others come from data of a type
that nobody foresaw, and from markup that cannot be read at all.
-/

namespace Requisite

/-- How a page lacks the shape that is relied on. -/
inductive PageFault where
  /-- The schedule has no selector of terms. -/
  | noTermSelector
  /-- A term has no code. -/
  | noQuarterCode
  /-- The search page has no subject areas. -/
  | noSubjectAreas
  /-- The number of pages is no number. -/
  | badPageCount (text : String)
  /-- A course summary has no class id. -/
  | noClassId (catalog : String)
  /-- A course summary has no label. -/
  | noCourseLabel (catalog : String)
  /-- The label of a course does not start as it should. -/
  | noCourseName (catalog : String)
  /-- A course summary has no path to the details. -/
  | noDetailPath (catalog : String)
  /-- A row of requisites has too few cells. -/
  | fewCells (count : Nat)
  /-- A title holds no catalog number and name. -/
  | noTitleParts (title : String)
  deriving DecidableEq, Repr

/-- The message for a page without the shape that is relied on. -/
def PageFault.message : PageFault → String
  | .noTermSelector => "No term selector on Schedule of Classes page"
  | .noQuarterCode => "Unable to determine quarter code"
  | .noSubjectAreas => "No subject area options in search page"
  | .badPageCount text => s!"Unable to convert page count text {Text.quoted text} to int"
  | .noClassId catalog => s!"Unable to determine class id for {catalog}"
  | .noCourseLabel catalog => s!"Unable to determine course label for {catalog}"
  | .noCourseName catalog => s!"Unable to determine course name for {catalog}"
  | .noDetailPath catalog => s!"Unable to determine class detail path for {catalog}"
  | .fewCells count => s!"Requisite row has {count} cells, expected 5"
  | .noTitleParts title =>
    s!"Unable to determine catalog number and name from {Text.quoted title}"

/-- The ways in which a request fails. -/
inductive RequestFault where
  /-- The answer has an error status. -/
  | status
  /-- There is no connection. -/
  | connection
  /-- The connection to a proxy fails. -/
  | proxy
  /-- The connection cannot be made safe. -/
  | security
  /-- No answer comes in time. -/
  | timeout
  /-- The connection is not made in time. -/
  | connectTimeout
  /-- The answer stops before its end. -/
  | readTimeout
  /-- The address is missing. -/
  | noAddress
  /-- The address is none. -/
  | badAddress
  /-- The address names no scheme. -/
  | noScheme
  /-- The scheme of the address is not served. -/
  | badScheme
  /-- The address of a proxy is none. -/
  | badProxy
  /-- A header of the request cannot be sent. -/
  | badHeader
  /-- The answer sends one on too often. -/
  | redirects
  /-- The answer comes in broken pieces. -/
  | chunks
  /-- The content of the answer cannot be decoded. -/
  | encoding
  /-- The content of the answer has been read already. -/
  | consumed
  /-- The answer is no data. -/
  | data
  /-- The content of the request cannot be sent again. -/
  | rewind
  /-- The request has failed too often. -/
  | retries
  /-- Any other trouble with the request. -/
  | other
  deriving DecidableEq, Repr

/-- Why something yields nothing. -/
inductive Failure where
  /-- The request failed. -/
  | request (fault : RequestFault) (message : String)
  /-- The page lacks the shape that is relied on. -/
  | page (fault : PageFault)
  /-- The expression has no graph. -/
  | expression (fault : ExprFault)
  /-- Embedded data is no JSON. -/
  | malformedData
  /-- A number has too many digits to be read. -/
  | numberTooLong
  /-- The markup of a page cannot be read. -/
  | malformedMarkup
  /-- A value lacks what its type should have: it is no text, or no record. -/
  | wrongType
  /-- A value that should be a list is none. -/
  | notAList
  /-- Something broke that is none of these. -/
  | broken
  deriving DecidableEq, Repr

/-- The message of a foreseen failure, or `none` for one that is not. -/
def Failure.reason? : Failure → Option String
  | .request _ message => some message
  | .page fault => some fault.message
  | .expression fault => some fault.message
  | _ => none

end Requisite
