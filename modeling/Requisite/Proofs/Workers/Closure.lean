import Requisite.Proofs.Store.Listings
import Requisite.Proofs.Workers.Interleaving

/-!
# Nothing refers to a node that is not there

A relation refers to the nodes at its ends, and a course to its node. The three parts of an
accumulator change in separate steps, so a node has to arrive before all that refers to it. Within
one visit it does: the node of the course comes before the course, and the nodes of a graph before
the courses and the relations of the graph, which refer to no other nodes than these and the node of
the course (`Visit.supported`). Other workers only add nodes, so a sequence of steps that is
supported stays so while it waits (`Supported.mono`), and an accumulator that workers share is
closed between any two steps.
-/

namespace Requisite

namespace Accumulator

/-! ## Closed accumulators -/

/-- All that the accumulator refers to is a node of it. -/
structure Closed (acc : Accumulator) : Prop where
  sources : ∀ r ∈ acc.relations, r.source ∈ acc.nodes.map Node.id
  targets : ∀ r ∈ acc.relations, r.target ∈ acc.nodes.map Node.id
  courses : ∀ c ∈ acc.courses, c.nodeId ∈ acc.nodes.map Node.id

/-- The ids of the nodes that a step refers to. -/
def Step.refersTo : Step → List String
  | .nodes _ => []
  | .courses cs => cs.map Course.nodeId
  | .relations rs => rs.flatMap fun r => [r.source, r.target]

/-- After a step the nodes are those before it and those that it brings. -/
theorem mem_ids_apply {acc : Accumulator} {step : Step} {id : String} :
    id ∈ (acc.apply step).nodes.map Node.id ↔
      id ∈ acc.nodes.map Node.id ∨ id ∈ step.nodesOf.map Node.id := by
  have hnodes : (acc.apply step).nodes = addAll Node.id acc.nodes step.nodesOf := by
    cases step <;> rfl
  rw [hnodes, mem_map_addAll]

/-- A step that refers to known nodes leaves a closed accumulator closed. -/
theorem Closed.apply {acc : Accumulator} (h : acc.Closed) {step : Step}
    (hstep : ∀ id ∈ step.refersTo, id ∈ acc.nodes.map Node.id) : (acc.apply step).Closed := by
  cases step with
  | nodes ns =>
    constructor
    · exact fun r hr => mem_ids_apply.2 (.inl (h.sources r hr))
    · exact fun r hr => mem_ids_apply.2 (.inl (h.targets r hr))
    · exact fun c hc => mem_ids_apply.2 (.inl (h.courses c hc))
  | courses cs =>
    refine ⟨h.sources, h.targets, fun c hc => ?_⟩
    rcases mem_map_nodeId_foldl_addCourse.1 (List.mem_map_of_mem hc) with hknown | hnew
    · obtain ⟨d, hd, hnode⟩ := List.mem_map.1 hknown
      rw [← hnode]
      exact h.courses d hd
    · exact hstep _ hnew
  | relations rs =>
    have hends {r : Relation} (hr : r ∈ rs) :
        r.source ∈ acc.nodes.map Node.id ∧ r.target ∈ acc.nodes.map Node.id :=
      ⟨hstep _ (List.mem_flatMap.2 ⟨r, hr, List.mem_cons_self⟩),
        hstep _ (List.mem_flatMap.2 ⟨r, hr, List.mem_cons_of_mem _ List.mem_cons_self⟩)⟩
    refine ⟨fun r hr => ?_, fun r hr => ?_, h.courses⟩
    · exact (mem_addAll_id.1 hr).elim (h.sources r) fun hnew => (hends hnew).1
    · exact (mem_addAll_id.1 hr).elim (h.targets r) fun hnew => (hends hnew).2

/-! ## Steps in an order that keeps it closed -/

/-- Each step refers only to nodes that have known ids, or that arrived with the steps before it. -/
def Supported (ids : List String) : List Step → Prop
  | [] => True
  | step :: steps =>
    (∀ id ∈ step.refersTo, id ∈ ids) ∧ Supported (ids ++ step.nodesOf.map Node.id) steps

/-- What is supported stays so when more ids are known. -/
theorem Supported.mono {ids ids' : List String} {steps : List Step} (h : Supported ids steps)
    (hids : ids ⊆ ids') : Supported ids' steps := by
  induction steps generalizing ids ids' with
  | nil => trivial
  | cons step steps ih =>
    refine ⟨fun id hid => hids (h.1 id hid), ih h.2 fun id hid => ?_⟩
    exact List.mem_append.2 ((List.mem_append.1 hid).imp_left fun hknown => hids hknown)

/-- A sequence is supported after another if it is so where all that the other brings is known. -/
theorem Supported.append {ids : List String} {xs ys : List Step} (hx : Supported ids xs)
    (hy : Supported (ids ++ (xs.flatMap Step.nodesOf).map Node.id) ys) :
    Supported ids (xs ++ ys) := by
  induction xs generalizing ids with
  | nil => simpa using hy
  | cons step steps ih =>
    rw [List.flatMap_cons, List.map_append, ← List.append_assoc] at hy
    exact ⟨hx.1, ih hx.2 hy⟩

/-- The steps that record a course are supported. -/
theorem supported_bindSteps (ids : List String) (c : Course) : Supported ids (bindSteps c) := by
  simp [bindSteps, Supported, Step.refersTo, Step.nodesOf]

/-- The steps that record an accepted graph are supported where the node of its owner is known. -/
theorem supported_mergeSteps {ids : List String} {owner text : String} {g : Graph}
    (hg : Graph.ofText owner text = .ok g) (howner : owner ∈ ids) :
    Supported ids (mergeSteps g) := by
  refine ⟨by simp [Step.refersTo], ?_, ?_, trivial⟩
  · intro id hid
    obtain ⟨c, hc, rfl⟩ := List.mem_map.1 hid
    exact List.mem_append_right _ (Graph.course_of_ofText hg hc).2
  · intro id hid
    obtain ⟨r, hr, hid⟩ := List.mem_flatMap.1 hid
    obtain ⟨hsource, htarget⟩ := Graph.ends_of_ofText hg hr
    refine List.mem_append_left _ ?_
    rcases List.mem_pair.1 hid with rfl | rfl
    · rcases hsource with hsource | hsource
      · exact List.mem_append_left _ (hsource ▸ howner)
      · exact List.mem_append_right _ hsource
    · exact List.mem_append_right _ htarget

/-- A course that a worker visits, with the text of its requisites. -/
structure Visit where
  course : Course
  text : String
  deriving DecidableEq, Repr

/-- The steps of a visit: those that record the course, and those that record its graph if the text
is accepted. -/
def Visit.steps (v : Visit) : List Step :=
  stepsOf [.bind v.course, .merge v.course.nodeId v.text]

/-- The steps of a visit are supported. -/
theorem Visit.supported (v : Visit) (ids : List String) : Supported ids v.steps := by
  have hsteps : v.steps = bindSteps v.course ++ (Task.merge v.course.nodeId v.text).steps := by
    simp [Visit.steps, stepsOf, Task.steps]
  rw [hsteps]
  refine (supported_bindSteps ids v.course).append ?_
  rcases (Task.merge v.course.nodeId v.text).steps_cases with
    ⟨c, hbind, -⟩ | ⟨owner, text, g, hmerge, hg, hsteps⟩ | hsteps
  · exact absurd hbind (by simp)
  · obtain ⟨rfl, rfl⟩ := Task.merge.inj hmerge
    rw [hsteps]
    refine supported_mergeSteps hg (List.mem_append_right _ ?_)
    simp [flatMap_nodesOf_bindSteps]
  · rw [hsteps]
    trivial

/-- The steps of visits are supported, one visit after the other. -/
theorem supported_visits (visits : List Visit) (ids : List String) :
    Supported ids (visits.flatMap Visit.steps) := by
  induction visits generalizing ids with
  | nil => trivial
  | cons v visits ih =>
    rw [List.flatMap_cons]
    exact (v.supported ids).append (ih _)

/-! ## Every moment -/

/-- The accumulator is closed, and the steps that each worker has left are supported by the nodes
that are there. -/
structure Ready (acc : Accumulator) (left : List (List Step)) : Prop where
  closed : acc.Closed
  supported : ∀ pending ∈ left, Supported (acc.nodes.map Node.id) pending

/-- Before anything is done, all visits are supported. -/
theorem ready_start (visits : List (List Visit)) :
    Ready {} (visits.map fun own => own.flatMap Visit.steps) := by
  refine ⟨⟨by simp, by simp, by simp⟩, fun pending hpending => ?_⟩
  obtain ⟨own, -, rfl⟩ := List.mem_map.1 hpending
  exact supported_visits own _

/-- It stays so when one worker takes its next step. -/
theorem Ready.next {acc : Accumulator} {before after : List (List Step)} {step : Step}
    {rest : List Step} (h : Ready acc (before ++ (step :: rest) :: after)) :
    Ready (acc.apply step) (before ++ rest :: after) := by
  have hnext : Supported (acc.nodes.map Node.id) (step :: rest) :=
    h.supported _ (List.mem_append_right _ List.mem_cons_self)
  refine ⟨h.closed.apply hnext.1, fun pending hpending => ?_⟩
  -- The worker that took the step relies on what it brought, and the others on what was there.
  have hother (hpending : pending ∈ before ++ (step :: rest) :: after) :
      Supported ((acc.apply step).nodes.map Node.id) pending :=
    (h.supported _ hpending).mono fun id hid => mem_ids_apply.2 (.inl hid)
  rcases List.mem_append.1 hpending with hbefore | hpending
  · exact hother (List.mem_append_left _ hbefore)
  · rcases List.mem_cons.1 hpending with rfl | hafter
    · exact hnext.2.mono fun id hid => mem_ids_apply.2 (List.mem_append.1 hid)
    · exact hother (List.mem_append_right _ (List.mem_cons_of_mem _ hafter))

/-- While workers visit courses, the accumulator that they share is closed at every moment,
whichever steps have been taken by then. -/
theorem Interleaving.closed_run {visits : List (List Visit)} {steps : List Step}
    {left : List (List Step)}
    (h : Interleaving (visits.map fun own => own.flatMap Visit.steps) steps left) :
    (run {} steps).Closed := by
  have hready : Ready (run {} steps) left :=
    h.invariant (ready_start visits) fun acc before step rest after hready => hready.next
  exact hready.closed

/-- The visit of a listed course. -/
def Visit.ofListing (e : Listing) : Visit where
  course := e.course
  text := e.text

/-- It takes the steps that record the course and its graph. -/
theorem Visit.steps_ofListing (e : Listing) : (Visit.ofListing e).steps = e.steps := by
  simp [Visit.steps, Visit.ofListing, stepsOf, Task.steps, Listing.accepted, Listing.steps]

/-- One worker has visited `M 2`, and the other has brought the nodes of `M 1` and its graph, but
not yet the relations, which lead to a node that both share. -/
theorem Interleaving.closed_run_halfMerged :
    ∃ steps left,
      Interleaving
        ([[Visit.ofListing (Listing.pair false)], [Visit.ofListing (Listing.pair true)]].map
          fun own => own.flatMap Visit.steps) steps left ∧
      left = [[.courses [], .relations (Listing.pair false).graph.relations], []] ∧
      (run {} steps).relations = (Listing.pair true).graph.relations ∧ (run {} steps).Closed := by
  have hworkers : [[Visit.ofListing (Listing.pair false)],
      [Visit.ofListing (Listing.pair true)]].map (fun own => own.flatMap Visit.steps) =
      [(Listing.pair false).steps, (Listing.pair true).steps] := by
    simp [Visit.steps_ofListing]
  have hbegun : Interleaving [(Listing.pair false).steps, (Listing.pair true).steps]
      (bindSteps (Listing.pair false).course ++ [.nodes (Listing.pair false).graph.nodes])
      [[.courses [], .relations (Listing.pair false).graph.relations],
        (Listing.pair true).steps] :=
    Interleaving.start.advance [] (bindSteps (Listing.pair false).course ++
      [Step.nodes (Listing.pair false).graph.nodes])
  have htaken : Interleaving [(Listing.pair false).steps, (Listing.pair true).steps]
      (bindSteps (Listing.pair false).course ++ [.nodes (Listing.pair false).graph.nodes] ++
        (Listing.pair true).steps)
      [[.courses [], .relations (Listing.pair false).graph.relations], []] :=
    .advance [_] _ (by rwa [List.append_nil])
  rw [← hworkers] at htaken
  exact ⟨_, _, htaken, rfl, by decide +kernel, htaken.closed_run⟩

end Accumulator

end Requisite
