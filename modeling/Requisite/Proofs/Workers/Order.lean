import Requisite.Proofs.Store.Listings
import Requisite.Proofs.Workers.Interleaving

/-!
# Workers in any order

Of two nodes with one id an accumulator keeps the one that arrives first, and of two courses with
one key the first name. So in general the order of the steps shows in the result. It does not where
the steps agree on what they bring (`Agree`): then a node is known by its id and a name by its key,
and the result is said by what has arrived, in whatever order (`Agree.run_perm`). Steps that are
taken once more find all that they bring there, and change nothing (`run_again`).

The steps of workers agree as soon as the courses that they bind do (`Compatible`): the nodes of
accepted texts have the kinds that their ids show, and the courses that texts name have no names.
-/

namespace Requisite

/-- The first arrivals of a list are those of the list in another order, where the key tells the
arrivals apart. -/
theorem firsts_perm {α κ : Type} [DecidableEq κ] {key : α → κ} {ys zs : List α}
    (hkey : ∀ y ∈ ys, ∀ z ∈ ys, key y = key z → y = z) (h : ys.Perm zs) :
    (firsts key ys).Perm (firsts key zs) := by
  have hkey' : ∀ y ∈ zs, ∀ z ∈ zs, key y = key z → y = z := by
    intro y hy z hz
    exact hkey y (h.mem_iff.2 hy) z (h.mem_iff.2 hz)
  refine (List.perm_ext_iff_of_nodup (nodup_map_firsts key ys).of_map
    (nodup_map_firsts key zs).of_map).2 fun x => ?_
  rw [mem_firsts hkey, mem_firsts hkey', h.mem_iff]

namespace Accumulator

/-! ## Steps that agree -/

/-- The steps do not contradict each other: nodes with one id are one, and the names that are given
for a key are one, and not empty. -/
structure Agree (steps : List Step) : Prop where
  nodes : ∀ n ∈ steps.flatMap Step.nodesOf, ∀ m ∈ steps.flatMap Step.nodesOf, n.id = m.id → n = m
  named : ∀ c ∈ steps.flatMap Step.coursesOf, c.name ≠ some ""
  names : ∀ c ∈ steps.flatMap Step.coursesOf, ∀ d ∈ steps.flatMap Step.coursesOf,
    c.key = d.key → c.name ≠ none → d.name ≠ none → c.name = d.name

/-- Where the courses agree, the name that they give a key is the name of any of them that has
one. -/
theorem nameFor_eq_some_iff {cs : List Course}
    (hnames : ∀ c ∈ cs, ∀ d ∈ cs, c.key = d.key → c.name ≠ none → d.name ≠ none → c.name = d.name)
    {key : String × String} {name : String} :
    nameFor cs key = some name ↔ ∃ c ∈ cs, c.key = key ∧ c.name = some name := by
  have hgiven {n : String} (h : nameFor cs key = some n) :
      ∃ c ∈ cs, c.key = key ∧ c.name = some n := by
    obtain ⟨c, hc, hname⟩ := List.exists_of_findSome?_eq_some h
    by_cases hkey : c.key = key
    · exact ⟨c, hc, hkey, by rwa [if_pos hkey] at hname⟩
    · rw [if_neg hkey] at hname
      exact absurd hname (Option.some_ne_none n).symm
  refine ⟨hgiven, fun ⟨c, hc, hkey, hname⟩ => ?_⟩
  cases hfor : nameFor cs key with
  | none =>
    have hnone := List.findSome?_eq_none_iff.1 hfor c hc
    rw [if_pos hkey, hname] at hnone
    exact absurd hnone (Option.some_ne_none name)
  | some n =>
    obtain ⟨d, hd, hkey', hname'⟩ := hgiven hfor
    have hagree := hnames d hd c hc (hkey'.trans hkey.symm) (by simp [hname']) (by simp [hname])
    rwa [hname', hname] at hagree

namespace Agree

variable {steps steps' : List Step}

/-- Whether steps agree does not depend on their order. -/
theorem perm (h : Agree steps) (hperm : steps.Perm steps') : Agree steps' := by
  have hnodes (n : Node) := (hperm.flatMap_right Step.nodesOf).mem_iff (a := n)
  have hcourses (c : Course) := (hperm.flatMap_right Step.coursesOf).mem_iff (a := c)
  constructor
  · intro n hn m hm
    exact h.nodes n ((hnodes n).2 hn) m ((hnodes m).2 hm)
  · intro c hc
    exact h.named c ((hcourses c).2 hc)
  · intro c hc d hd
    exact h.names c ((hcourses c).2 hc) d ((hcourses d).2 hd)

/-- Nor do the records that their courses leave, the order of these apart. -/
theorem gathered_perm (h : Agree steps) (hperm : steps.Perm steps') :
    (gathered (steps.flatMap Step.coursesOf)).Perm (gathered (steps'.flatMap Step.coursesOf)) := by
  have hcourses := hperm.flatMap_right Step.coursesOf
  have hname (key : String × String) : nameFor (steps.flatMap Step.coursesOf) key =
      nameFor (steps'.flatMap Step.coursesOf) key := by
    -- Any course that has a name gives it, wherever it stands among the others.
    refine Option.ext fun name => ?_
    rw [nameFor_eq_some_iff h.names, nameFor_eq_some_iff (h.perm hperm).names]
    exact exists_congr fun c => and_congr_left' hcourses.mem_iff
  have hcourseFor : courseFor (steps.flatMap Step.coursesOf) =
      courseFor (steps'.flatMap Step.coursesOf) := by
    funext key
    rw [courseFor, courseFor, hname]
  rw [gathered, gathered, hcourseFor]
  exact (firsts_perm (fun _ _ _ _ hkey => hkey) (hcourses.map _)).map _

/-- Steps that agree leave the same nodes, courses and relations in whatever order they are
taken. -/
theorem run_perm (h : Agree steps) (hperm : steps.Perm steps') :
    (run {} steps).nodes.Perm (run {} steps').nodes ∧
      (run {} steps).courses.Perm (run {} steps').courses ∧
      (run {} steps).relations.Perm (run {} steps').relations := by
  refine ⟨?_, ?_, ?_⟩
  · rw [nodes_run, nodes_run]
    exact firsts_perm h.nodes (hperm.flatMap_right _)
  · rw [courses_run_eq h.named, courses_run_eq (h.perm hperm).named]
    exact h.gathered_perm hperm
  · rw [relations_run, relations_run]
    exact firsts_perm (fun _ _ _ _ hkey => hkey) (hperm.flatMap_right _)

end Agree

/-- Courses that arrive once more leave no other records. -/
theorem gathered_append_of_subset {cs ds : List Course} (h : ds ⊆ cs) :
    gathered (cs ++ ds) = gathered cs := by
  have hname (key : String × String) : nameFor (cs ++ ds) key = nameFor cs key := by
    rw [nameFor_append]
    cases hfor : nameFor cs key with
    | none =>
      rw [Option.none_or]
      exact List.findSome?_eq_none_iff.2 fun d hd => List.findSome?_eq_none_iff.1 hfor d (h hd)
    | some n => rw [Option.some_or]
  have hcourseFor : courseFor (cs ++ ds) = courseFor cs := by
    funext key
    rw [courseFor, courseFor, hname]
  have hkeys : firsts id ((cs ++ ds).map Course.key) = firsts id (cs.map Course.key) := by
    rw [List.map_append, firsts, addAll_append]
    refine addAll_of_forall_mem fun key hkey => ?_
    rw [List.map_id]
    exact mem_firsts_id.2 (List.map_subset _ h hkey)
  rw [gathered, gathered, hkeys, hcourseFor]

/-- Steps that are taken once more change nothing. -/
theorem run_again {steps again : List Step}
    (hnamed : ∀ c ∈ steps.flatMap Step.coursesOf, c.name ≠ some "") (hagain : again ⊆ steps) :
    (run {} steps).run again = run {} steps := by
  -- What the steps bring once more was brought before, so every key is known.
  have hbrought {α : Type} (brought : Step → List α) :
      again.flatMap brought ⊆ steps.flatMap brought := by
    intro x hx
    obtain ⟨step, hstep, hx⟩ := List.mem_flatMap.1 hx
    exact List.mem_flatMap.2 ⟨step, hagain hstep, hx⟩
  have hnodes : ((run {} steps).run again).nodes = (run {} steps).nodes := by
    rw [nodes_run]
    refine addAll_of_forall_mem fun n hn => ?_
    rw [nodes_run, mem_map_addAll]
    exact .inr (List.mem_map_of_mem (hbrought _ hn))
  have hcourses : ((run {} steps).run again).courses = (run {} steps).courses := by
    rw [courses_run, courses_run_eq hnamed,
      foldl_addCourse_gathered _ fun c hc => hnamed c (hbrought _ hc),
      gathered_append_of_subset (hbrought _)]
  have hrelations : ((run {} steps).run again).relations = (run {} steps).relations := by
    rw [relations_run]
    refine addAll_of_forall_mem fun r hr => ?_
    rw [relations_run, List.map_id]
    exact mem_addAll_id.2 (.inr (hbrought _ hr))
  exact Accumulator.ext hnodes hcourses hrelations

/-! ## Workers that agree -/

/-- The courses that the workers bind do not contradict each other, and none has the node of a
chain: their nodes begin with no bracket and no connective, no name is empty, and the names that are
given for one course are one. -/
structure Compatible (workers : List (List Task)) : Prop where
  plain : ∀ c, Task.bind c ∈ workers.flatten → PlainStart c.nodeId
  named : ∀ c, Task.bind c ∈ workers.flatten → c.name ≠ some ""
  names : ∀ c d, Task.bind c ∈ workers.flatten → Task.bind d ∈ workers.flatten →
    c.key = d.key → c.name ≠ none → d.name ≠ none → c.name = d.name

/-- A node that a task brings has the kind that its id shows. -/
theorem Task.kind_eq_ofId {task : Task} (h : ∀ c, task = .bind c → PlainStart c.nodeId) {n : Node}
    (hn : n ∈ task.steps.flatMap Step.nodesOf) : n.kind = NodeKind.ofId n.id := by
  rcases task.steps_cases with ⟨c, rfl, hsteps⟩ | ⟨owner, text, g, -, hg, hsteps⟩ | hsteps
  · rw [hsteps, flatMap_nodesOf_bindSteps] at hn
    obtain rfl := List.mem_singleton.1 hn
    exact (NodeKind.ofId_of_plainStart (h c rfl)).symm
  · rw [hsteps, flatMap_nodesOf_mergeSteps] at hn
    exact Graph.kind_eq_ofId hg hn
  · rw [hsteps] at hn
    exact absurd hn List.not_mem_nil

/-- A course that a task brings is the one that it binds, or has no name. -/
theorem Task.eq_bind_or_name_eq_none {task : Task} {c : Course}
    (hc : c ∈ task.steps.flatMap Step.coursesOf) : task = .bind c ∨ c.name = none :=
  (Task.course_cases hc).imp_right fun ⟨_, _, _, _, hg, hc⟩ => (Graph.course_of_ofText hg hc).1

variable {workers : List (List Task)} {steps : List Step} {left : List (List Step)}

/-- The steps that workers have taken agree, if the courses that they bind do. -/
theorem Compatible.agree (h : Compatible workers)
    (htaken : Interleaving (workers.map stepsOf) steps left) : Agree steps := by
  have hkind : ∀ n ∈ steps.flatMap Step.nodesOf, n.kind = NodeKind.ofId n.id := by
    intro n hn
    obtain ⟨task, htask, hn⟩ := htaken.exists_task hn
    exact Task.kind_eq_ofId (fun c hc => h.plain c (hc ▸ htask)) hn
  -- A course with a name is one that a worker binds, so only these can contradict each other.
  have hcourse : ∀ c ∈ steps.flatMap Step.coursesOf,
      Task.bind c ∈ workers.flatten ∨ c.name = none := by
    intro c hc
    obtain ⟨task, htask, hc⟩ := htaken.exists_task hc
    exact (Task.eq_bind_or_name_eq_none hc).imp_left fun hbind : task = .bind c => hbind ▸ htask
  constructor
  · intro n hn m hm hid
    have hkinds : n.kind = m.kind := by rw [hkind n hn, hkind m hm, hid]
    cases n
    cases m
    obtain rfl := hid
    obtain rfl := hkinds
    rfl
  · intro c hc
    rcases hcourse c hc with hbind | hnone
    · exact h.named c hbind
    · simp [hnone]
  · intro c hc d hd hkey hcname hdname
    exact h.names c d ((hcourse c hc).resolve_right hcname) ((hcourse d hd).resolve_right hdname)
      hkey hcname hdname

/-- Workers whose courses agree leave the same nodes, courses and relations in whatever order they
take their steps, and at any moment the steps taken so far, any of them and in any order, change
nothing when they are taken once more. -/
theorem Compatible.interleavings_perm (h : Compatible workers) {steps' : List Step}
    {left' : List (List Step)} (htaken : Interleaving (workers.map stepsOf) steps left)
    (htaken' : Interleaving (workers.map stepsOf) steps' left') (hleft : Finished left)
    (hleft' : Finished left') :
    (run {} steps).nodes.Perm (run {} steps').nodes ∧
      (run {} steps).courses.Perm (run {} steps').courses ∧
      (run {} steps).relations.Perm (run {} steps').relations ∧
      ∀ taken pending, Interleaving (workers.map stepsOf) taken pending →
        ∀ again, again ⊆ taken → (run {} taken).run again = run {} taken := by
  have hperm : steps.Perm steps' :=
    (htaken.perm_of_finished hleft).trans (htaken'.perm_of_finished hleft').symm
  obtain ⟨hnodes, hcourses, hrelations⟩ := (h.agree htaken).run_perm hperm
  refine ⟨hnodes, hcourses, hrelations, fun taken pending htaken again hagain => ?_⟩
  exact run_again (h.agree htaken).named hagain

/-- The course `M 1` with its name. -/
def algebra : Course where
  subject := "M"
  catalog := "1"
  name := some "Algebra"

/-- Two workers that share nodes, and the course `M 1`, which only the second knows the name of. -/
def sharedWork : List (List Task) :=
  [[.bind (Listing.pair false).course,
      .merge (Listing.pair false).course.nodeId (Listing.pair false).text],
    [.bind algebra, .bind (Listing.pair true).course,
      .merge (Listing.pair true).course.nodeId (Listing.pair true).text]]

/-- The steps of the two workers record both graphs, since both texts are accepted. -/
theorem map_stepsOf_sharedWork :
    sharedWork.map stepsOf =
      [bindSteps (Listing.pair false).course ++ mergeSteps (Listing.pair false).graph,
        bindSteps algebra ++ (Listing.pair true).steps] := by
  simp [sharedWork, stepsOf, Task.steps, Listing.accepted, Listing.steps]

/-- The courses that they bind agree. -/
theorem compatible_sharedWork : Compatible sharedWork := by
  have hbound : ∀ c, Task.bind c ∈ sharedWork.flatten →
      c.subject = "M" ∧ (c.name = none ∨ c.name = some "Algebra") := by
    intro c hc
    have hcases : c = (Listing.pair false).course ∨ c = algebra ∨
        c = (Listing.pair true).course := by
      simpa [sharedWork] using hc
    rcases hcases with rfl | rfl | rfl
    · exact ⟨rfl, .inl rfl⟩
    · exact ⟨rfl, .inr rfl⟩
    · exact ⟨rfl, .inl rfl⟩
  constructor
  · intro c hc
    refine plainStart_courseNodeId ?_ c.catalog
    rw [(hbound c hc).1]
    simp [PlainStart, structural?]
  · intro c hc
    rcases (hbound c hc).2 with hname | hname <;> simp [hname]
  · intro c d hc hd _ hcname hdname
    rw [(hbound c hc).2.resolve_left hcname, (hbound d hd).2.resolve_left hdname]

/-- The second worker takes its steps after those of the first, or between them: the nodes arrive in
another order, and are the same. The first worker's `M 1` has the name that the second knows. -/
theorem Compatible.interleavings_perm_sharedWork :
    Compatible sharedWork ∧ Finished [[], []] ∧ ∃ steps steps',
      Interleaving (sharedWork.map stepsOf) steps [[], []] ∧
      Interleaving (sharedWork.map stepsOf) steps' [[], []] ∧
      (run {} steps).nodes ≠ (run {} steps').nodes ∧ algebra ∈ (run {} steps).courses ∧
      (run {} steps).nodes.Perm (run {} steps').nodes ∧
      (run {} steps).courses.Perm (run {} steps').courses ∧
      (run {} steps).relations.Perm (run {} steps').relations ∧
      (run {} steps).run steps' = run {} steps := by
  have hdone : Finished [[], []] := by simp [Finished]
  have hapart : Interleaving (sharedWork.map stepsOf)
      ((Listing.pair false).steps ++ (bindSteps algebra ++ (Listing.pair true).steps) ++ [])
      [[], []] := by
    rw [map_stepsOf_sharedWork]
    exact .between (Listing.pair false).steps [] _
  have hmixed : Interleaving (sharedWork.map stepsOf)
      (bindSteps (Listing.pair false).course ++ (bindSteps algebra ++ (Listing.pair true).steps) ++
        mergeSteps (Listing.pair false).graph)
      [[], []] := by
    rw [map_stepsOf_sharedWork]
    exact .between _ _ _
  obtain ⟨hnodes, hcourses, hrelations, hagain⟩ :=
    compatible_sharedWork.interleavings_perm hapart hmixed hdone hdone
  refine ⟨compatible_sharedWork, hdone, _, _, hapart, hmixed, by decide +kernel, by decide +kernel,
    hnodes, hcourses, hrelations, hagain _ _ hapart _ ?_⟩
  exact ((hmixed.perm_of_finished hdone).trans (hapart.perm_of_finished hdone).symm).subset

end Accumulator

end Requisite
