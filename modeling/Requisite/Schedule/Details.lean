import Requisite.Schedule.Page

/-!
# Course details

The public list of courses: one record a course, with its title, units, level and description.
-/

namespace Requisite.Schedule

/-- The details of a course. Each of the last three may be the empty text. -/
structure CourseDetails where
  subject : String
  catalog : String
  name : String
  units : String := ""
  level : String := ""
  description : String := ""
  deriving DecidableEq, Repr

/-- The level of a course, without the word for courses at its end. -/
def levelName (level : String) : String :=
  let level := Text.trim level
  match Text.dropEnding? " Courses".toList level.toList with
  | some before => Text.trim (String.ofList before)
  | none => level

/-- The details in one record of the list for a subject area. -/
def detailsOfRecord (subject : String) (record : JsonValue) : Except Failure CourseDetails := do
  let title ← textField record "course_title"
  match Text.cut? ". ".toList title.toList with
  | none => .error (.page (.noTitleParts title))
  | some (catalog, name) =>
    let level ← textField record "crs_career_lvl_nm"
    let units ← textField record "unt_rng"
    let description ← textField record "crs_desc"
    .ok
      { subject := Text.trim subject
        catalog := Text.trim (String.ofList catalog)
        name := Text.trim (String.ofList name)
        units := Text.trim units
        level := levelName level
        description := Text.trim description }

/-- The details in the list for a subject area. -/
def courseDetails (subject : String) (list : JsonValue) : Except Failure (List CourseDetails) := do
  (← itemsOf list).mapM (detailsOfRecord subject)

/-- The codes in the list of current subject areas; records without a code are left out. -/
def currentSubjects (list : JsonValue) : Except Failure (List String) := do
  let codes ← (← itemsOf list).mapM fun record => textField record "subj_area_cd"
  .ok ((codes.filter fun code => !code.isEmpty).map Text.trim)

end Requisite.Schedule
