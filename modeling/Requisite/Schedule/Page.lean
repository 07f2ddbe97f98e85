import Requisite.Failure
import Requisite.Json.Reader
import Requisite.Notice
import Requisite.Page.Reader
import Requisite.Quarter
import Requisite.Row
import Requisite.Subject

/-!
# The pages of the schedule

What the pages of the schedule of classes say: the quarters, the subject areas of a quarter, the
number of result pages of a search and the catalog numbers on each, the summary of a course, and the
rows of its requisites.
-/

namespace Requisite.Schedule

open Page

/-- An element of a name. -/
def named (name : String) : Selector := { name }

/-- An element of a name with an id. -/
def identified (name id : String) : Selector := { name, id := some id }

/-- An element of a name with some classes. -/
def ofClasses (name : String) (classes : List String) : Selector := { name, classes }

/-- The failure that markup which cannot be read is. -/
def markupFailure : MarkupFault → Failure
  | .numberTooLong => .numberTooLong
  | .unknownSection => .malformedMarkup

/-- The elements of a written page that a path of selectors matches, in document order. -/
def elements (path : List Selector) (page : String) : Except Failure (List Content) :=
  ((read page).mapError markupFailure).map (Page.select path)

/-! ## Quarters -/

/-- The quarter of an option. -/
def quarterOfOption (option : Content) : Except Failure Quarter :=
  match option.attribute? "value" with
  | some code => .ok { code := Text.trim code, name := option.trimmedText }
  | none => .error (.page .noQuarterCode)

/-- The quarters that the landing page offers. -/
def quarters (page : String) : Except Failure (List Quarter) := do
  match ← elements [identified "select" "optSelectTerm"] page with
  | [] => .error (.page .noTermSelector)
  | terms :: _ => (terms.within [named "option"]).mapM quarterOfOption

/-! ## Subject areas -/

/-- The text before the last occurrence of a word, or `none` without one. -/
def beforeLast? (word cs : List Char) : Option (List Char) :=
  (Text.cut? word.reverse cs.reverse).map fun (_, before) => before.reverse

/-- What stands before the options of the search panel, as far as the first of them. -/
def optionsStart : List Char := "SearchPanelSetup('[\x7b".toList

/-- What stands after the options of the search panel, from the end of the last of them. -/
def optionsEnd : List Char := "\x7d]'".toList

/-- The options of the search panel as they are written: the first that start and end on one line,
with the last possible end. -/
def subjectOptions? : List Char → Option (List Char)
  | [] => none
  | c :: cs =>
    let inside := do
      let rest ← optionsStart.isPrefixOf? (c :: cs)
      beforeLast? optionsEnd (rest.takeWhile (· != '\n'))
    match inside with
    | some inside => some ("[\x7b".toList ++ inside ++ "\x7d]".toList)
    | none => subjectOptions? cs

/-- The text in a field of a record; an empty value of any type stands for the empty text. -/
def textField (record : JsonValue) (name : String) : Except Failure String :=
  match record with
  | .object fields =>
    match JsonValue.fieldOrNull fields name with
    | .string s => .ok s
    | v => if v.isEmpty then .ok "" else .error .wrongType
  | _ => .error .wrongType

/-- The subject area of an option: its value is the code, and its label without the code in brackets
is the name. -/
def subjectOfOption (option : JsonValue) : Except Failure SubjectArea := do
  let code := Text.trim (← textField option "value")
  let label ← textField option "label"
  let name := Text.replaceAll ('(' :: code.toList ++ [')']) [] label.toList
  .ok { code, name := Text.trim (String.ofList name) }

/-- The items of a value that should be a list. A record in its place has its names as items, and a
text its characters. -/
def itemsOf : JsonValue → Except Failure (List JsonValue)
  | .array items => .ok items
  | .object fields => .ok (fields.map fun (name, _) => .string name)
  | .string s => .ok (s.toList.map fun c => .string (String.singleton c))
  | _ => .error .notAList

/-- The failure that a broken JSON text is. -/
def dataFailure : JsonFault → Failure
  | .malformed => .malformedData
  | .integerTooLong => .numberTooLong

/-- The subject areas that the search page offers. -/
def subjectAreas (page : String) : Except Failure (List SubjectArea) := do
  match subjectOptions? page.toList with
  | none => .error (.page .noSubjectAreas)
  | some text =>
    let text ← (decodeValue text).mapError markupFailure
    let options ← (JsonValue.parse text).mapError dataFailure
    (← itemsOf options).mapM subjectOfOption

/-! ## Results -/

/-- The number of result pages of a search, zero where the page does not say. -/
def pageCount (page : String) : Except Failure Int := do
  match (← elements [identified "input" "pageCount"] page).head?.bind (·.attribute? "value") with
  | none => .ok 0
  | some text =>
    match Text.integer? (Text.trim text) with
    | some n => .ok n
    | none => .error (.page (.badPageCount (Text.trim text)))

/-- The catalog number at the start of a course title. -/
def titleNumber? (title : String) : Option String :=
  (Text.cut? " - ".toList title.toList).map fun (number, _) => Text.trim (String.ofList number)

/-- The titles of the courses on a result page. -/
def titles (page : String) : Except Failure (List String) :=
  (elements [ofClasses "div" ["class-title"], named "button"] page).map fun buttons =>
    buttons.map Content.trimmedText

/-- The catalog numbers on a result page, in order. -/
def catalogNumbers (page : String) : Except Failure (List String) :=
  (titles page).map fun titles => titles.filterMap titleNumber?

/-- The report on titles without a catalog number. -/
def titleNotices (titles : List String) : List Notice :=
  (titles.filter fun title => (titleNumber? title).isNone).map .untitledCourse

/-- What reading the catalog numbers of a result page reports; nothing where the page cannot be
read. -/
def catalogNumberNotices (page : String) : List Notice :=
  ((titles page).map titleNotices).toOption.getD []

/-! ## Courses -/

/-- What the summary of a course says. -/
structure Summary where
  /-- The name of the course. -/
  name : String
  /-- The address of the details with the requisites. -/
  tooltip : String
  deriving DecidableEq, Repr

/-- The name in a label, which ends in the units: all words but the last two. -/
def nameBeforeUnits (label : List Char) : List Char :=
  let words := (Text.trimWhile Text.isBlank label).splitOn ' '
  [' '].intercalate (words.take (words.length - 2))

/-- The class id in the information on a course. -/
def classId? (info : Content) : Option String :=
  (info.attribute? "id").filter fun id => !id.isEmpty

/-- The label of a course. -/
def courseLabel? (info : Content) (classId : String) : Option Content := do
  let enrolment ← (info.within [identified "div" (classId ++ "-enroll")]).head?
  (enrolment.within [named "label"]).head?

/-- The path to the details of a course. -/
def detailPath? (info : Content) (classId : String) : Option String := do
  let classSection ← (info.within [identified "div" (classId ++ "-section")]).head?
  (classSection.within [named "a"]).findSome? (·.attribute? "href")

/-- The address of the details with the requisites; the path continues `base`. -/
def tooltipAddress (base path : String) : String :=
  String.ofList
    (Text.replaceFirst "ClassDetail".toList "ClassDetailTooltip".toList (base ++ path).toList)

/-- The summary of the course with a catalog number, as the information on it gives it. -/
def summaryOf (info : Content) (catalog base : String) : Except PageFault Summary := do
  let some classId := classId? info | .error (.noClassId catalog)
  let some label := courseLabel? info classId | .error (.noCourseLabel catalog)
  let some (_, after) := Text.cut? (catalog ++ " - ").toList label.textOf
    | .error (.noCourseName catalog)
  let some path := detailPath? info classId | .error (.noDetailPath catalog)
  .ok { name := String.ofList (nameBeforeUnits after), tooltip := tooltipAddress base path }

/-- The summary of the course with a catalog number, as its page gives it; addresses on the page
continue `base`. -/
def summary (page catalog base : String) : Except Failure Summary := do
  match ← elements [ofClasses "div" ["class-not-checked", "class-info"]] page with
  | [] => .error (.page (.noClassId catalog))
  | info :: _ => (summaryOf info catalog base).mapError .page

/-! ## Requisites -/

/-- The row of requisites in a row of the table. -/
def requisiteRow (row : Content) : Except PageFault Row :=
  match row.within [named "td"] with
  | expression :: grade :: prereq :: coreq :: enforced :: _ =>
    .ok
      { expression := String.ofList expression.textOf
        minimumGrade := grade.trimmedText
        prereq := prereq.trimmedText == "Yes"
        coreq := coreq.trimmedText == "Yes"
        enforced := !(enforced.within [ofClasses "div" ["icon-exclamation-sign"]]).isEmpty }
  | cells => .error (.fewCells cells.length)

/-- The rows of requisites on the details page of a course. -/
def requisiteRows (page : String) : Except Failure (List Row) := do
  let rows ← elements
    [ofClasses "table" ["requisites_content"], named "tbody", ofClasses "tr" ["requisite"]] page
  (rows.mapM requisiteRow).mapError .page

end Requisite.Schedule
