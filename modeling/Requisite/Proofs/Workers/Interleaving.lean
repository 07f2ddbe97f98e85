import Requisite.Proofs.Accumulation
import Requisite.Proofs.Expr.Rooted

/-!
# Workers that share an accumulator

Several workers record courses and graphs in one accumulator. Each works through its own tasks, and
each task is a few atomic steps, between which the others take theirs. An `Interleaving` is what has
happened at some moment: the steps taken so far, in order, and those that each worker has left. The
accumulator at that moment is the one after the steps taken, so a state that can be reached is
`Accumulator.run {} steps` for some interleaving.

What holds at the start and is preserved when one worker takes one step holds at every moment
(`Interleaving.invariant`). What a graph brings into the accumulator is said by three facts about
accepted texts: the kind of each node is the one that its id shows, the courses have no names, and
the ends of the relations are nodes, their owner apart.
-/

namespace Requisite

/-! ## What an accepted text brings -/

namespace Graph

variable {owner text : String} {g : Graph}

/-- The id of each node shows its kind. -/
theorem kind_eq_ofId (h : Graph.ofText owner text = .ok g) {n : Node} (hn : n ∈ g.nodes) :
    n.kind = NodeKind.ofId n.id := by
  rcases eq_empty_or_exists_reading h with rfl | ⟨d, hd, hread⟩
  · simp at hn
  · rcases (hread.nodes n).1 hn with ⟨l, hl, rfl⟩ | ⟨c, hc, rfl⟩
    · exact (NodeKind.ofId_of_plainStart (hd.startsPlain hl).plainStart).symm
    · exact (Derivation.ofId_of_mem_chains hc).symm

/-- The courses that the text names have no names of their own, and their nodes are there. -/
theorem course_of_ofText (h : Graph.ofText owner text = .ok g) {c : Course} (hc : c ∈ g.courses) :
    c.name = none ∧ c.nodeId ∈ g.nodes.map Node.id := by
  rcases eq_empty_or_exists_reading h with rfl | ⟨d, -, hread⟩
  · simp at hc
  · obtain ⟨l, hl, hcourse⟩ := (hread.courses c).1 hc
    refine ⟨Expr.name_of_course? hcourse, ?_⟩
    rw [(Leaf.course?_eq_some hcourse).1]
    exact List.mem_map_of_mem ((hread.nodes _).2 (.inl ⟨l, hl, rfl⟩))

/-- Their subject areas have no number sign in their codes. -/
theorem subject_of_ofText (h : Graph.ofText owner text = .ok g) {c : Course} (hc : c ∈ g.courses) :
    '#' ∉ c.subject.toList := by
  rcases eq_empty_or_exists_reading h with rfl | ⟨d, -, hread⟩
  · simp at hc
  · obtain ⟨l, -, hcourse⟩ := (hread.courses c).1 hc
    exact (Leaf.course?_eq_some hcourse).2

/-- Relations lead from the owner or a node to a node. -/
theorem ends_of_ofText (h : Graph.ofText owner text = .ok g) {r : Relation}
    (hr : r ∈ g.relations) :
    (r.source = owner ∨ r.source ∈ g.nodes.map Node.id) ∧ r.target ∈ g.nodes.map Node.id := by
  have hrooted := Graph.rooted_of_ofText h
  refine ⟨?_, (hrooted.nodes _).2 (hrooted.reaches_target hr)⟩
  exact (hrooted.relations r hr).imp And.left fun hchain => (hrooted.nodes _).2 hchain.2

end Graph

namespace Accumulator

/-! ## Tasks -/

/-- What a worker does with the accumulator. -/
inductive Task where
  /-- Record a course. -/
  | bind (c : Course)
  /-- Record the graph that a text gives its owner, if it is accepted. -/
  | merge (owner text : String)
  deriving DecidableEq, Repr

/-- The steps of a task. A text that is refused brings nothing. -/
def Task.steps : Task → List Step
  | .bind c => bindSteps c
  | .merge owner text =>
    match Graph.ofText owner text with
    | .ok g => mergeSteps g
    | .error _ => []

/-- The steps of several tasks, one task after the other. -/
def stepsOf (tasks : List Task) : List Step :=
  tasks.flatMap Task.steps

/-- A task records a course, or a graph whose text is accepted, or does nothing. -/
theorem Task.steps_cases (task : Task) :
    (∃ c, task = .bind c ∧ task.steps = bindSteps c) ∨
      (∃ owner text g, task = .merge owner text ∧ Graph.ofText owner text = .ok g ∧
        task.steps = mergeSteps g) ∨
      task.steps = [] := by
  cases task with
  | bind c => exact .inl ⟨c, rfl, rfl⟩
  | merge owner text =>
    rw [Task.steps]
    cases hg : Graph.ofText owner text with
    | ok g => exact .inr (.inl ⟨owner, text, g, rfl, hg, rfl⟩)
    | error f => exact .inr (.inr rfl)

/-- A course that a task brings is the one that it binds, or one that its text names. -/
theorem Task.course_cases {task : Task} {c : Course}
    (hc : c ∈ task.steps.flatMap Step.coursesOf) :
    task = .bind c ∨ ∃ owner text g, task = .merge owner text ∧
      Graph.ofText owner text = .ok g ∧ c ∈ g.courses := by
  rcases task.steps_cases with ⟨d, rfl, hsteps⟩ | ⟨owner, text, g, rfl, hg, hsteps⟩ | hsteps
  · rw [hsteps, flatMap_coursesOf_bindSteps] at hc
    obtain rfl := List.mem_singleton.1 hc
    exact .inl rfl
  · rw [hsteps, flatMap_coursesOf_mergeSteps] at hc
    exact .inr ⟨owner, text, g, rfl, hg, hc⟩
  · rw [hsteps] at hc
    exact absurd hc List.not_mem_nil

/-- Its subject code holds no number sign, unless that of a course that is bound does. -/
theorem Task.subject_of_bound {task : Task} {c : Course}
    (hc : c ∈ task.steps.flatMap Step.coursesOf)
    (h : ∀ d, task = .bind d → '#' ∉ d.subject.toList) : '#' ∉ c.subject.toList := by
  rcases Task.course_cases hc with rfl | ⟨owner, text, g, -, hg, hc⟩
  · exact h c rfl
  · exact Graph.subject_of_ofText hg hc

/-- The task brings the node of the course too. -/
theorem Task.nodeId_mem {task : Task} {c : Course} (hc : c ∈ task.steps.flatMap Step.coursesOf) :
    c.nodeId ∈ (task.steps.flatMap Step.nodesOf).map Node.id := by
  rcases Task.course_cases hc with rfl | ⟨owner, text, g, rfl, hg, hc⟩
  · exact List.mem_singleton_self _
  · rw [Task.steps, hg, flatMap_nodesOf_mergeSteps]
    exact (Graph.course_of_ofText hg hc).2

/-! ## Interleavings -/

/-- `Interleaving workers steps left`: of the steps that the workers have to take, each in its own
order, `steps` have been taken one after the other, and `left` are those that each still has. -/
inductive Interleaving (workers : List (List Step)) : List Step → List (List Step) → Prop where
  /-- Nothing has been done. -/
  | start : Interleaving workers [] workers
  /-- One worker takes its next step. -/
  | next {steps : List Step} {step : Step} {rest : List Step} (before : List (List Step))
      {after : List (List Step)}
      (taken : Interleaving workers steps (before ++ (step :: rest) :: after)) :
      Interleaving workers (steps ++ [step]) (before ++ rest :: after)

/-- No worker has a step left. -/
def Finished (left : List (List Step)) : Prop :=
  ∀ steps ∈ left, steps = []

namespace Interleaving

variable {workers left : List (List Step)} {steps : List Step}

/-- The steps taken and those left are all that the workers have, in another order. -/
theorem perm (h : Interleaving workers steps left) :
    (steps ++ left.flatten).Perm workers.flatten := by
  induction h with
  | start => exact List.Perm.refl _
  | @next steps _ _ _ _ _ ih =>
    refine List.Perm.trans ?_ ih
    -- A step moves from the front of what one worker has left to the end of what was taken.
    simp only [List.flatten_append, List.flatten_cons, List.append_assoc, List.cons_append,
      List.nil_append]
    exact List.Perm.append_left steps List.perm_middle.symm

/-- When all workers have finished, all of their steps have been taken. -/
theorem perm_of_finished (h : Interleaving workers steps left) (hleft : Finished left) :
    steps.Perm workers.flatten := by
  have hperm := h.perm
  rwa [List.flatten_eq_nil_iff.2 hleft, List.append_nil] at hperm

/-- What was taken is a step of one of the workers. -/
theorem exists_worker {step : Step} (h : Interleaving workers steps left) (hstep : step ∈ steps) :
    ∃ all ∈ workers, step ∈ all :=
  List.mem_flatten.1 (h.perm.mem_iff.1 (List.mem_append_left _ hstep))

/-- What the steps taken bring is brought by a task of one of the workers. -/
theorem exists_task {tasks : List (List Task)} {α : Type} {brought : Step → List α} {x : α}
    (h : Interleaving (tasks.map stepsOf) steps left) (hx : x ∈ steps.flatMap brought) :
    ∃ task ∈ tasks.flatten, x ∈ task.steps.flatMap brought := by
  obtain ⟨step, hstep, hx⟩ := List.mem_flatMap.1 hx
  obtain ⟨all, hall, hmem⟩ := h.exists_worker hstep
  obtain ⟨own, hown, rfl⟩ := List.mem_map.1 hall
  obtain ⟨task, htask, hmem⟩ := List.mem_flatMap.1 hmem
  exact ⟨task, List.mem_flatten.2 ⟨own, hown, htask⟩, List.mem_flatMap.2 ⟨step, hmem, hx⟩⟩

/-- One worker may take several steps while the others wait. -/
theorem advance {after : List (List Step)} {rest : List Step} (before : List (List Step))
    (several : List Step) (h : Interleaving workers steps (before ++ (several ++ rest) :: after)) :
    Interleaving workers (steps ++ several) (before ++ rest :: after) := by
  induction several generalizing steps with
  | nil => rwa [List.append_nil]
  | cons step several ih =>
    rw [← List.singleton_append, ← List.append_assoc]
    exact ih (h.next before)

/-- One of two workers may take all of its steps between those of the other. -/
theorem between (xs xs' ys : List Step) :
    Interleaving [xs ++ xs', ys] (xs ++ ys ++ xs') [[], []] := by
  have hbegun : Interleaving [xs ++ xs', ys] xs [xs', ys] := advance [] xs .start
  have hother : Interleaving [xs ++ xs', ys] (xs ++ ys) [xs', []] :=
    advance [xs'] ys (by rwa [List.append_nil])
  exact advance [] xs' (by rwa [List.append_nil])

/-- What holds of the empty accumulator and of all that the workers have to do, and is preserved
when one of them takes one step, holds at every moment. -/
theorem invariant {P : Accumulator → List (List Step) → Prop} (start : P {} workers)
    (next : ∀ acc before step rest after, P acc (before ++ (step :: rest) :: after) →
      P (acc.apply step) (before ++ rest :: after))
    (h : Interleaving workers steps left) : P (run {} steps) left := by
  induction h with
  | start => exact start
  | next before taken ih =>
    rw [run_append]
    exact next _ _ _ _ _ ih

end Interleaving

end Accumulator

end Requisite
