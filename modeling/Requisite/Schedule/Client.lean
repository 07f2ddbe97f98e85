import Requisite.CatalogNumber
import Requisite.Schedule.Details
import Requisite.Schedule.Query
import Requisite.Schedule.Settings

/-!
# The queries of a crawl

One query for each kind of page that the schedule and the course list have.
-/

namespace Requisite.Schedule

/-- The header without which some pages are sent empty. -/
def scriptHeaders : List (String × String) := [("X-Requested-With", "XMLHttpRequest")]

namespace Settings

/-- The quarters that the schedule offers. -/
def quartersQuery (s : Settings) : Query (List Quarter) where
  request := { url := s.landingUrl, timeout := s.timeout }
  read r := quarters r.text

/-- The subject areas of a quarter. -/
def subjectAreasQuery (s : Settings) (quarter : String) : Query (List SubjectArea) where
  request :=
    { url := s.searchUrl
      params := some [("term_cd", quarter), ("search_type", "subject")]
      headers := some scriptHeaders
      timeout := s.timeout }
  read r := subjectAreas r.text

/-- The number of result pages for a subject area in a quarter. -/
def pageCountQuery (s : Settings) (quarter subject : String) : Query Int where
  request :=
    { url := s.resultsUrl
      params := some [("t", quarter), ("sBy", "subject"), ("subj", subject)]
      timeout := s.timeout }
  read r := pageCount r.text

/-- The model that asks for the titles of a subject area in a quarter. -/
def titlesModel (quarter subject : String) : String :=
  "\x7b\"term_cd\":\"" ++ quarter ++ "\",\"subj_area_cd\":\"" ++ subject ++ "\"\x7d"

/-- The catalog numbers on a result page for a subject area in a quarter; `page` is the number of
the page as it is written. -/
def catalogNumbersQuery (s : Settings) (quarter subject page : String) :
    Query (List String) where
  request :=
    { url := s.titlesUrl
      params := some
        [("search_by", "subject"), ("model", titlesModel quarter subject),
          ("pageNumber", page), ("filterFlags", "\x7b\x7d")]
      headers := some scriptHeaders
      timeout := s.timeout }
  read r := catalogNumbers r.text
  notices r := catalogNumberNotices r.text

/-- The model that asks for the summary of a course, its catalog number in query form. -/
def summaryModel (quarter subject catalog : String) : String :=
  "\x7b\"Term\":\"" ++ quarter ++ "\",\"SubjectAreaCode\":\"" ++ subject ++
    "\",\"CatalogNumber\":\"" ++ catalog ++ "\",\"IsRoot\":true,\"Path\":\"0\"\x7d"

/-- The summary of a course in a quarter; its number may be too long to ask for. -/
def summaryQuery (s : Settings) (quarter subject catalog : String) :
    Except Failure (Query Summary) :=
  match formatCatalogNumber? catalog with
  | none => .error .numberTooLong
  | some number =>
    .ok
      { request :=
          { url := s.summaryUrl
            params := some
              [("model", summaryModel quarter subject number), ("filterFlags", "\x7b\x7d")]
            timeout := s.timeout }
        read := fun r => summary r.text catalog s.baseUrl }

/-- The rows of requisites at an address. -/
def requisiteRowsQuery (s : Settings) (url : String) : Query (List Row) where
  request := { url, headers := some scriptHeaders, timeout := s.timeout }
  read r := requisiteRows r.text

/-- The codes of the current subject areas. -/
def currentSubjectsQuery (s : Settings) : Query (List String) where
  request := { url := s.currentSubjectsUrl, timeout := s.timeout }
  read r := currentSubjects r.data

/-- The details of the courses of a subject area. -/
def courseDetailsQuery (s : Settings) (subject : String) : Query (List CourseDetails) where
  request :=
    { url := s.courseDetailsUrl
      params := some [("subjectarea", subject)]
      timeout := s.timeout }
  read r := courseDetails subject r.data

end Settings

end Requisite.Schedule
