import Requisite.Failure
import Requisite.Json.Value
import Requisite.Notice

/-!
# Queries

A query is a request together with the way its answer is read. A site answers requests; it is any
function, so whatever is said of a run over a site holds however the site behaves.
-/

namespace Requisite.Schedule

/-- A request for a page. -/
structure Request where
  url : String
  /-- The parameters, where the request has any. -/
  params : Option (List (String × String)) := none
  /-- The headers, where the request has any of its own. -/
  headers : Option (List (String × String)) := none
  /-- How many seconds to wait for the answer, where there is a limit. -/
  timeout : Option JsonNumber := none
  deriving DecidableEq, Repr

/-- The answer to a request. -/
structure Response where
  status : Int := 200
  text : String := ""
  /-- The answer as data, where it is read so. -/
  data : JsonValue := .null

/-- What answers requests, or fails to. -/
abbrev Site : Type := Request → Except Failure Response

/-- A request and what its answer says. -/
structure Query (α : Type) where
  request : Request
  /-- What an answer without an error status says. -/
  read : Response → Except Failure α
  /-- What reading an answer without an error status reports. -/
  notices : Response → List Notice := fun _ => []

/-- The answer, unless its status is an error. -/
def Response.accepted (r : Response) : Except Failure Response :=
  if 400 ≤ r.status then .error (.request .status s!"{r.status} error") else .ok r

namespace Query

/-- The answer of a site to the query, unless its status is an error. -/
def answer {α : Type} (site : Site) (q : Query α) : Except Failure Response :=
  (site q.request).bind Response.accepted

/-- What a site says to the query. -/
def result {α : Type} (site : Site) (q : Query α) : Except Failure α :=
  (q.answer site).bind q.read

/-- What asking the query reports. -/
def report {α : Type} (site : Site) (q : Query α) : List Notice :=
  match q.answer site with
  | .ok r => q.notices r
  | .error _ => []

end Query

end Requisite.Schedule
