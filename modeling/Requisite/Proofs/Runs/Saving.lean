import Requisite.Proofs.Runs.Union
import Requisite.Proofs.Store.Histories

/-!
# A run can always be saved

A store refuses a course whose node belongs to another course, and then a whole run is lost. The
courses of a run come from the schedule, and from leaves whose ids are cut at their first number
sign. None of them has a number sign in the code of its subject area, if the schedule has none
there, so the id of a node says the key of its course, whatever number signs the catalog numbers
hold, and courses with different keys have different nodes. So a run is saved, and what the schema
of the store asks for is kept (`Interleaving.exists_saveTo`). This holds at every moment of a run,
also of one with several workers.
-/

namespace Requisite

namespace Accumulator

variable {tasks : List (List Task)} {steps : List Step} {left : List (List Step)}

/-- While workers share an accumulator, no subject code in it holds a number sign, if this is so for
the courses that they bind. -/
theorem Interleaving.subject_run (h : Interleaving (tasks.map stepsOf) steps left)
    (hbound : ∀ c, Task.bind c ∈ tasks.flatten → '#' ∉ c.subject.toList) :
    ∀ c ∈ (run {} steps).courses, '#' ∉ c.subject.toList := by
  refine subject_run_of_brought fun c hc => ?_
  obtain ⟨task, htask, hc⟩ := h.exists_task hc
  exact Task.subject_of_bound hc fun d hd => hbound d (hd ▸ htask)

/-- What workers have collected is saved at every moment, and lasts, if no subject code of a bound
course holds a number sign and the nodes of the stored courses say their keys. Then this is still so
for the stored courses, and rows that were told apart by their identifying columns still are. -/
theorem Interleaving.exists_saveTo (h : Interleaving (tasks.map stepsOf) steps left)
    (hbound : ∀ c, Task.bind c ∈ tasks.flatten → '#' ∉ c.subject.toList) {s : Session}
    (hs : s.working.NodesSayKeys) :
    ∃ t counts, (run {} steps).saveTo s = ({ committed := t, working := t }, .ok counts) ∧
      t.NodesSayKeys ∧ (s.working.Keyed → t.Keyed) := by
  obtain ⟨hkeys, counts, hsave⟩ :=
    hs.exists_saveGraph (run {} steps).nodes (h.subject_run hbound) (run {} steps).relations
  refine ⟨_, counts, Session.saveGraph_eq_ok_iff.2 ⟨_, hsave, rfl⟩, hkeys, fun hkeyed => ?_⟩
  obtain ⟨hadmits, -⟩ := Tables.exists_saveGraph_iff.1 ⟨counts, hsave⟩
  exact hkeyed.afterGraph _ hadmits _

/-- One worker has the course `M 1#2`, which needs `M 1#3`, and another has the course `N 1`. -/
def numberSignTasks : List (List Task) :=
  [[.bind { subject := "M", catalog := "1#2" }, .merge "M#1#2" "M#1#3{tfff}"],
    [.bind { subject := "N", catalog := "1" }]]

/-- The steps of these tasks when the second worker works between the two tasks of the first. -/
def numberSignSteps : List Step :=
  bindSteps { subject := "M", catalog := "1#2" } ++ bindSteps { subject := "N", catalog := "1" } ++
    (Task.merge "M#1#2" "M#1#3{tfff}").steps

/-- The catalog numbers hold number signs, and yet all courses are saved beside the stored `M 1`. -/
theorem Interleaving.exists_saveTo_numberSigns :
    Interleaving (numberSignTasks.map stepsOf) numberSignSteps [[], []] ∧
      (∀ c, Task.bind c ∈ numberSignTasks.flatten → '#' ∉ c.subject.toList) ∧
      Session.unnamed.working.NodesSayKeys ∧ Session.unnamed.working.Keyed ∧
      ∃ t counts, (run {} numberSignSteps).saveTo Session.unnamed =
          ({ committed := t, working := t }, .ok counts) ∧
        t.NodesSayKeys ∧ t.Keyed ∧
        t.courses.map CourseRow.nodeId = ["M#1", "M#1#2", "N#1", "M#1#3"] := by
  have hwork : Interleaving (numberSignTasks.map stepsOf) numberSignSteps [[], []] := by
    have h := Interleaving.between (bindSteps { subject := "M", catalog := "1#2" })
      (Task.merge "M#1#2" "M#1#3{tfff}").steps (bindSteps { subject := "N", catalog := "1" })
    simpa [numberSignTasks, numberSignSteps, stepsOf, Task.steps] using h
  have hbound : ∀ c, Task.bind c ∈ numberSignTasks.flatten → '#' ∉ c.subject.toList := by
    simp [numberSignTasks]
  have hkeys : Session.unnamed.working.NodesSayKeys := ⟨by decide, by decide⟩
  have hkeyed : Session.unnamed.working.Keyed :=
    ⟨⟨by decide, by decide⟩, by decide, by decide, by decide, by decide⟩
  obtain ⟨t, counts, hsave, hkeys', hkeyed'⟩ := hwork.exists_saveTo hbound hkeys
  refine ⟨hwork, hbound, hkeys, hkeyed, t, counts, hsave, hkeys', hkeyed' hkeyed, ?_⟩
  obtain ⟨-, hsession⟩ := exists_saveTo_iff.1 ⟨counts, hsave⟩
  have ht : t = (run {} numberSignSteps).onto Session.unnamed.working :=
    congrArg Session.working hsession
  have htokens : tokens "M#1#3{tfff}" = [⟨.requisite, "M#1#3{tfff}", 0⟩] := by decide +kernel
  have hgraph := @Graph.ofText_of_leaf "M#1#2" _ _ _ (by decide) htokens rfl rfl
  rw [ht, numberSignSteps, Task.steps, hgraph]
  decide +kernel

end Accumulator

end Requisite
