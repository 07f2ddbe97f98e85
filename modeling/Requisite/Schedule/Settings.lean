import Requisite.Json.Value

/-!
# Settings

Where the schedule and the public course list are found, and how they are asked.
-/

namespace Requisite.Schedule

/-- The addresses of the schedule and of the course list, and how requests to them are made. -/
structure Settings where
  /-- What the addresses on the pages continue. -/
  baseUrl : String := "https://sa.ucla.edu"
  /-- The landing page, which offers the quarters. -/
  landingUrl : String := "https://sa.ucla.edu/ro/public/soc/"
  /-- The result page of a search. -/
  resultsUrl : String := "https://sa.ucla.edu/ro/public/soc/Results"
  /-- The course titles on one result page. -/
  titlesUrl : String := "https://sa.ucla.edu/ro/public/soc/Results/CourseTitlesView"
  /-- The summary of a course. -/
  summaryUrl : String := "https://sa.ucla.edu/ro/public/soc/Results/GetCourseSummary"
  /-- The search page, which offers the subject areas. -/
  searchUrl : String := "https://sa.ucla.edu/ro/ClassSearch/Public/Search/GetSimpleSearchData"
  /-- The list of current subject areas. -/
  currentSubjectsUrl : String := "https://api.ucla.edu/sis/publicapis/course/getallcourses"
  /-- The list of the courses of a subject area. -/
  courseDetailsUrl : String := "https://api.ucla.edu/sis/publicapis/course/getcoursedetail"
  /-- How many seconds to wait for an answer, where there is a limit. -/
  timeout : Option JsonNumber := some (.decimal 30 0)
  /-- How the requests name their sender. -/
  userAgent : String := "requisite-graph-scraper/1.0"

end Requisite.Schedule
