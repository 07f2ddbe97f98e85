import Requisite.Crawl
import Requisite.Store.Session

/-!
# Jobs

The four jobs that fill the store from the schedule: its quarters, their subject areas, the details
of courses, and the requisite graphs. A job says what it did line by line, reports what it left out,
and stops where something fails that it does not expect.
-/

namespace Requisite

open Schedule

/-- Why a job stops. -/
inductive JobFault where
  | failure (f : Failure)
  | constraint (f : ConstraintFault)
  deriving DecidableEq, Repr

/-- How far a job has come. -/
structure JobState where
  session : Session
  /-- The lines that the job has said. -/
  output : List String := []
  requests : List Request := []
  notices : List Notice := []

/-- A job at its end: where it left off, and its value or why it stopped. -/
abbrev JobResult (α : Type) : Type := JobState × Except JobFault α

namespace JobState

/-- The state after a line is said. -/
def say (j : JobState) (line : String) : JobState :=
  { j with output := j.output ++ [line] }

/-- The state after a report. -/
def note (j : JobState) (n : Notice) : JobState :=
  { j with notices := j.notices ++ [n] }

/-- The state after a query to a site. -/
def ask {α : Type} (j : JobState) (site : Site) (q : Query α) : JobState :=
  { j with
    requests := j.requests ++ [q.request]
    notices := j.notices ++ q.report site }

/-- The state with the work of the store that is not committed taken back. -/
def rollback (j : JobState) : JobState :=
  { j with session := j.session.rollback }

end JobState

namespace Job

/-- A job's end with nothing uncommitted where it stopped early. -/
def settled {α : Type} : JobResult α → JobResult α
  | (j, .ok a) => (j, .ok a)
  | (j, .error f) => (j.rollback, .error f)

/-! ## Quarters -/

/-- Store the quarters that the schedule offers; the value is the number of new ones. -/
def quarters (settings : Settings) (site : Site) (j : JobState) : JobResult Nat :=
  let q := settings.quartersQuery
  let j := j.ask site q
  match q.result site with
  | .error f => (j, .error (.failure f))
  | .ok found =>
    match j.session.saveQuarters (found.map fun q => (some q.code, some q.name)) with
    | (session, .error f) => ({ j with session }, .error (.constraint f))
    | (session, .ok inserted) =>
      ({ j with session }.say s!"scrape_quarters done. {found.length} found, {inserted} inserted",
        .ok inserted)

/-! ## Subject areas -/

/-- Store the subject areas of one quarter, and link them to it. -/
def subjectsOf (settings : Settings) (site : Site) (quarter : String) (j : JobState) :
    JobResult Unit :=
  let q := settings.subjectAreasQuery quarter
  let j := j.ask site q
  match q.result site with
  | .error f =>
    match f.reason? with
    | some reason => (j.note (.subjectsFailed quarter reason), .ok ())
    | none => (j, .error (.failure f))
  | .ok areas =>
    match j.session.saveSubjects (areas.map fun a => (some a.code, some a.name)) with
    | (session, .error f) => ({ j with session }, .error (.constraint f))
    | (session, .ok inserted) =>
      match session.saveLinks (some quarter) (areas.map fun a => some a.code) with
      | (session, .error f) => ({ j with session }, .error (.constraint f))
      | (session, .ok linked) =>
        let line :=
          s!"{quarter}: {areas.length} subject areas ({inserted} new, {linked} linked)"
        ({ j with session }.say line, .ok ())

/-- Store the subject areas of some quarters. -/
def subjectsOfAll (settings : Settings) (site : Site) : List String → JobState → JobResult Unit
  | [], j => (j, .ok ())
  | quarter :: quarters, j =>
    match subjectsOf settings site quarter j with
    | (j, .ok ()) => subjectsOfAll settings site quarters j
    | (j, .error f) => (j, .error f)

/-- Store the subject areas of all stored quarters. -/
def subjects (settings : Settings) (site : Site) (j : JobState) : JobResult Unit :=
  subjectsOfAll settings site (j.session.working.listQuarters.map Quarter.code) j

/-! ## Course details -/

/-- Store the details of the courses of some subject areas, which have all been asked for; the value
is their number. -/
def saveDetails (settings : Settings) (site : Site) :
    List String → Nat → JobState → JobResult Nat
  | [], total, j => (j, .ok total)
  | code :: codes, total, j =>
    match (settings.courseDetailsQuery code).result site with
    | .error f =>
      match f.reason? with
      | some reason => saveDetails settings site codes total (j.note (.detailsFailed code reason))
      | none => (j, .error (.failure f))
    | .ok details =>
      match j.session.saveDetails details with
      | (session, .error f) => ({ j with session }, .error (.constraint f))
      | (session, .ok _) =>
        saveDetails settings site codes (total + details.length) { j with session }

/-- Store the details of the courses of all current subject areas; the value is their number. -/
def details (settings : Settings) (site : Site) (j : JobState) : JobResult Nat :=
  let q := settings.currentSubjectsQuery
  let j := j.ask site q
  match q.result site with
  | .error f => (j, .error (.failure f))
  | .ok codes =>
    let j := j.say s!"Found {codes.length} subject area(s)"
    let j := codes.foldl (fun j code => j.ask site (settings.courseDetailsQuery code)) j
    match saveDetails settings site codes 0 j with
    | (j, .error f) => (j, .error f)
    | (j, .ok total) => (j.say s!"scrape_details done. {total} courses", .ok total)

/-! ## Courses -/

/-- The targets for a quarter and a subject area; without a quarter, those for all stored ones in
order, and without a subject area, those for all that the quarter is linked to. -/
def targets (t : Tables) (quarter subject : Option String) : List Target :=
  let given (s : Option String) : Option String := s.filter fun s => !s.isEmpty
  let quarters := match given quarter with
    | some q => [q]
    | none => t.listQuarters.map Quarter.code
  quarters.flatMap fun q =>
    match given subject with
    | some s => [⟨q, s⟩]
    | none => (t.listQuarterSubjects q).map fun area => ⟨q, area.code⟩

/-- The index over all stored subject areas. -/
def storedIndex (t : Tables) : SubjectIndex :=
  .ofPairs (t.listSubjects.map fun a => (some a.code, some a.name))

/-- What saving did, as a line says it. -/
def savedText (s : Saved) : String :=
  "\x7b'inserted': " ++ toString s.inserted ++ ", 'skipped': " ++ toString s.skipped ++ "\x7d"

/-- What saving a graph did, as a line says it. -/
def graphSavedText (s : GraphSaved) : String :=
  "\x7b'nodes': " ++ savedText s.nodes ++ ", 'courses': " ++ savedText s.courses ++
    ", 'relations': " ++ savedText s.relations ++ "\x7d"

/-- Crawl the courses of the targets and store their graphs; the value is what saving did. -/
def courses (settings : Settings) (site : Site) (quarter subject : Option String)
    (j : JobState) : JobResult GraphSaved :=
  let index := storedIndex j.session.working
  let targets := targets j.session.working quarter subject
  let j := j.say (s!"Crawling {targets.length} quarter/subject area pair(s), " ++
    s!"{index.size} known subject areas")
  let p := Crawler.run { site, settings, index } targets {}
  let j : JobState :=
    { j with requests := j.requests ++ p.requests, notices := j.notices ++ p.notices }
  let acc := p.accumulator
  match j.session.saveGraph acc.nodes acc.courses acc.relations with
  | (session, .error f) => ({ j with session }, .error (.constraint f))
  | (session, .ok saved) =>
    ({ j with session }.say ("scrape_courses done. " ++ graphSavedText saved), .ok saved)

end Job

end Requisite
