import Requisite.Service.Address
import Requisite.Store.Reach
import Requisite.Text.Blank

/-!
# The service

The store answers two questions over addresses: what a course needs, and what depends on a node. A
question without its parameters and one about something unknown are answered with an error page, as
is any other address. An address that would be known with fewer slashes is sent on to that one.
-/

namespace Requisite.Service

/-- An answer of the service. -/
inductive Reply where
  /-- What a course needs. -/
  | requisites (r : Tables.Requisites)
  /-- The courses that depend on a node. -/
  | dependents (node : String) (courses : List CourseRow)
  /-- A page to read, with a status that says why. -/
  | page (status : Nat) (body : String)

/-! ## Pages -/

/-- A character within a page. -/
def escapeChar : Char → List Char
  | '&' => "&amp;".toList
  | '<' => "&lt;".toList
  | '>' => "&gt;".toList
  | '"' => "&#34;".toList
  | '\'' => "&#39;".toList
  | c => [c]

/-- A text within a page. -/
def escape (cs : List Char) : List Char :=
  cs.flatMap escapeChar

/-- A text with a break at each line end. -/
def breakLines (cs : List Char) : List Char :=
  cs.flatMap fun c => if c = '\n' then "<br>".toList else [c]

/-- A page with a title, a heading and a text. -/
def pageOf (title heading text : String) : String :=
  s!"<!doctype html>\n<html lang=en>\n<title>{title}</title>\n<h1>{heading}</h1>\n<p>{text}"

/-- An error page. -/
def errorPage (status : Nat) (name description : String) : Reply :=
  let text := String.ofList (breakLines (escape description.toList))
  .page status (pageOf s!"{status} {name}" name s!"{text}</p>\n")

/-- The answer to a question that lacks a parameter. -/
def badRequest (description : String) : Reply :=
  errorPage 400 "Bad Request" description

/-- The answer to a question about what is not known. -/
def notFound (description : String) : Reply :=
  errorPage 404 "Not Found" description

/-- The answer at an address where there is nothing. -/
def nothingThere : Reply :=
  notFound ("The requested URL was not found on the server. If you entered the URL manually " ++
    "please check your spelling and try again.")

/-- The page that sends one on to an address. -/
def sentOn (address : List Char) : Reply :=
  let target := String.ofList (escape address)
  let text := "You should be redirected automatically to the target URL: " ++
    s!"<a href=\"{target}\">{target}</a>. If not, click the link.\n"
  .page 308 (pageOf "Redirecting..." "Redirecting..." text)

/-! ## Questions -/

/-- The value of a parameter without blanks around it: the first one given, or the empty text. -/
def parameter (ps : List (String × String)) (name : String) : String :=
  Text.trim ((ps.lookup name).getD "")

/-- Whether a parameter says yes. -/
def isSet (ps : List (String × String)) (name : String) : Bool :=
  ["1", "true", "yes"].contains (String.ofList ((parameter ps name).toList.map Char.toLower))

/-- The answer to what a course needs. -/
def requisitesReply (t : Tables) (ps : List (String × String)) : Reply :=
  let subject := parameter ps "subject"
  let catalog := parameter ps "catalog"
  if subject.isEmpty || catalog.isEmpty then badRequest "subject and catalog are required"
  else
    match t.requisitesFor (subject, catalog) (isSet ps "transitive") with
    | some r => .requisites r
    | none => notFound s!"Course {subject} {catalog} not found"

/-- The answer to what depends on a node. -/
def dependentsReply (t : Tables) (ps : List (String × String)) : Reply :=
  let node := parameter ps "node"
  if node.isEmpty then badRequest "node is required"
  else
    match t.dependentsOf node (isSet ps "transitive") with
    | some courses => .dependents node courses
    | none => notFound s!"Node {node} not found"

/-! ## Addresses -/

/-- What there is at a path. -/
inductive Route where
  | requisites
  | dependents
  /-- A file, of which the service has none. -/
  | file
  deriving DecidableEq, Repr

/-- The name of a file, which is some line that starts with no slash. -/
def isFileName : List Char → Bool
  | [] => false
  | c :: cs => c != '/' && !cs.contains '\n'

/-- What there is at a path, or `none` for nothing. -/
def Route.ofPath? (path : List Char) : Option Route :=
  if path = "/graph/requisites".toList then some .requisites
  else if path = "/graph/dependents".toList then some .dependents
  else if ("/static/".toList.isPrefixOf? path).any isFileName then some .file
  else none

/-- The path with one slash for each run of them. -/
def mergeSlashes : List Char → List Char
  | [] => []
  | c :: cs => if c == '/' && cs.head? == some '/' then mergeSlashes cs else c :: mergeSlashes cs

/-- The answer at a route. -/
def Route.reply (t : Tables) (query : String) : Route → Reply
  | .requisites => requisitesReply t (parameters query)
  | .dependents => dependentsReply t (parameters query)
  | .file => nothingThere

/-- The answer that sends one on to a path of the service. -/
def sentOnTo (origin path : List Char) (query : String) : Except AddressFault Reply :=
  if query.toList.any fun c => c == '\n' || c == '\r' then .error .brokenLine
  else
    let target := origin ++ escapePath path
    .ok (sentOn (if query.isEmpty then target else target ++ '?' :: query.toList))

/-- The path that an address asks for. What is left of the address without its origin and its
fragment is read as an address once more. -/
def Address.asked (a : Address) : List Char :=
  '/' :: (decodePath (ofList a.path).path).dropWhile (· == '/')

/-- The answer to a request for an address with a query beside it. -/
def reply (t : Tables) (address query : String) : Except AddressFault Reply := do
  let a := Address.ofList address.toList
  let origin ← a.origin
  if !a.query.isEmpty then .error .twoQueries
  else
    match Route.ofPath? a.asked with
    | some route => .ok (route.reply t query)
    | none =>
      let merged := mergeSlashes a.asked
      if (Route.ofPath? merged).isSome then sentOnTo origin merged query else .ok nothingThere

end Requisite.Service
