import Requisite.Graph
import Requisite.Text.Quoted

/-!
# Notices

What a run reports along the way without failing, as causes, each with its severity and its message.
-/

namespace Requisite

/-- How grave a notice is. -/
inductive Severity where
  | info
  | warning
  | error
  deriving DecidableEq, Repr

/-- The word for a severity. -/
def Severity.word : Severity → String
  | .info => "INFO"
  | .warning => "WARNING"
  | .error => "ERROR"

/-- Something that a run reports. A `reason` is the message of a failure. -/
inductive Notice where
  /-- A catalog number has no digits. -/
  | noDigits (catalog : String)
  /-- A course title does not start with a catalog number. -/
  | untitledCourse (title : String)
  /-- A node arrives with another kind than the one recorded for its id. -/
  | nodeConflict (id : String) (recorded arriving : NodeKind)
  /-- A subject area has no result pages. -/
  | noPages (quarter subject : String)
  /-- A result page could not be read. -/
  | pageFailed (page : Int) (quarter subject reason : String)
  /-- A result page failed in an unforeseen way. -/
  | pageBroken (page : Int) (quarter subject : String)
  /-- A course could not be read. -/
  | courseFailed (subject catalog quarter reason : String)
  /-- A course failed in an unforeseen way. -/
  | courseBroken (subject catalog quarter : String)
  /-- A subject area has been read to its end. -/
  | subjectDone (quarter subject : String) (read failed : Nat)
  /-- The courses of a subject area could not be listed. -/
  | listingFailed (quarter subject reason : String)
  /-- Listing the courses of a subject area failed in an unforeseen way. -/
  | listingBroken (quarter subject : String)
  /-- The subject areas of a quarter could not be read. -/
  | subjectsFailed (quarter reason : String)
  /-- The course details of a subject area could not be read. -/
  | detailsFailed (subject reason : String)
  deriving DecidableEq, Repr

/-- How grave a notice is: only what passes as planned is information, and only what nobody foresaw
is an error. -/
def Notice.severity : Notice → Severity
  | .noPages .. | .subjectDone .. => .info
  | .pageBroken .. | .courseBroken .. | .listingBroken .. => .error
  | _ => .warning

/-- The message of a notice. -/
def Notice.message : Notice → String
  | .noDigits catalog => s!"No digits in catalog number {Text.quoted catalog}; assuming 0"
  | .untitledCourse title =>
    s!"Unable to determine catalog number from course title {Text.quoted title}"
  | .nodeConflict id recorded arriving =>
    s!"Node {Text.quoted id} already recorded as {recorded.word}; ignoring {arriving.word}"
  | .noPages quarter subject => s!"No result pages for {quarter} {subject}; assuming no courses"
  | .pageFailed page quarter subject reason =>
    s!"Failed page {page} of {quarter} {subject}: {reason}"
  | .pageBroken page quarter subject => s!"Unexpected error on page {page} of {quarter} {subject}"
  | .courseFailed subject catalog quarter reason =>
    s!"Skipping {subject} {catalog} ({quarter}): {reason}"
  | .courseBroken subject catalog quarter =>
    s!"Unexpected error scraping {subject} {catalog} ({quarter})"
  | .subjectDone quarter subject read failed =>
    s!"{quarter} {subject}: {read} courses scraped, {failed} skipped"
  | .listingFailed quarter subject reason =>
    s!"Failed to list courses for {quarter} {subject}: {reason}"
  | .listingBroken quarter subject => s!"Unexpected error crawling {quarter} {subject}"
  | .subjectsFailed quarter reason => s!"Failed subject areas for {quarter}: {reason}"
  | .detailsFailed subject reason =>
    s!"Unable to get course details for subject area {subject}: {reason}"

/-- A notice as a line of a log. -/
def Notice.line (n : Notice) : String :=
  n.severity.word ++ ": " ++ n.message

end Requisite
