import Mathlib.Data.List.Nodup
import Mathlib.Data.Prod.Lex
import Mathlib.Data.String.Basic
import Requisite.Proofs.Store.Subgraph

/-!
# Queries that go through courses

A query either ends at the courses that it meets, or goes on through them. What it answers when it
goes on is what comes of asking again and again where it ends: first from the start, and then from
every course that was answered so far (`InTurn`). `inTurn_answers` says so of both queries, whatever
cycles there are, those through the start included.

A way that goes on through courses is cut at every course on it, which gives ways that end at
courses (`relayed_iff`). The two queries differ only in the direction of their ways and in what they
list, nodes or courses, so the comparison is made once, for lists of anything with an id
(`Asked.inTurn_iff`).
-/

namespace Requisite

/-! ## Asking in turn -/

/-- What is answered in turn: the least set that has the first answer, and with each of its elements
the answer for that element. A question without an answer adds nothing. -/
inductive InTurn {α : Type} (first : Option (List α)) (next : α → Option (List α)) : α → Prop where
  | first {xs : List α} {x : α} (answer : first = some xs) (mem : x ∈ xs) : InTurn first next x
  | next {x y : α} {ys : List α} (before : InTurn first next x) (answer : next x = some ys)
      (mem : y ∈ ys) : InTurn first next y

namespace Tables

variable {t : Tables} {transitive : Bool} {start mid id : String}

/-! ## Cutting ways at courses -/

/-- Ways that end at courses lead from `start` to the id, and each but the first begins at the
course at which the one before ends. -/
inductive Relayed (t : Tables) (start : String) : String → Prop where
  | way {id : String} (way : t.Leads false start id) : Relayed t start id
  | relay {course id : String} (before : Relayed t start course) (isCourse : t.isCourseNode course)
      (way : t.Leads false course id) : Relayed t start id

/-- A way that goes on through courses goes on along any other way from its end. -/
theorem Leads.trans (h : t.Leads true start mid) (h' : t.Leads transitive mid id) :
    t.Leads true start id := by
  induction h' with
  | @one r source stored =>
    subst source
    exact .more h rfl stored
  | more way through stored ih => exact .more ih rfl stored

/-- A way that ends at courses is a way. -/
theorem Leads.throughCourses (h : t.Leads transitive start id) : t.Leads true start id := by
  induction h with
  | one source stored => exact .one source stored
  | more way through stored ih => exact .more ih rfl stored

/-- Relations lead from one id to another through courses exactly when ways that end at courses do,
one after the other. -/
theorem relayed_iff : t.Relayed start id ↔ t.Leads true start id := by
  constructor
  · intro h
    induction h with
    | way way => exact way.throughCourses
    | relay before isCourse way ih => exact ih.trans way
  · intro h
    induction h with
    | one source stored => exact .way (.one source stored)
    | @more r way through stored ih =>
      by_cases hcourse : t.isCourseNode r.source
      · -- The way is cut here, and the relation begins the next one.
        exact .relay ih hcourse (.one rfl stored)
      · have hthrough : t.goesThrough false r.source := by simpa [goesThrough] using hcourse
        cases ih with
        | way way => exact .way (.more way hthrough stored)
        | relay before isCourse way => exact .relay before isCourse (.more way hthrough stored)

/-! ## Questions about ways -/

section

variable {α : Type} {idOf : α → String} {Listed : α → Prop}

/-- The list answers where ways lead from an id: it has what is listed under their ends, the id
itself aside. -/
def Answers (t : Tables) (transitive : Bool) (idOf : α → String) (Listed : α → Prop)
    (start : String) (xs : List α) : Prop :=
  ∀ x, x ∈ xs ↔ Listed x ∧ idOf x ≠ start ∧ t.Leads transitive start (idOf x)

/-- It is asked where ways that end at courses lead, first from `start` and then from courses. -/
structure Asked (t : Tables) (idOf : α → String) (Listed : α → Prop) (start : String)
    (first : Option (List α)) (next : α → Option (List α)) : Prop where
  /-- The first question has an answer. -/
  first : ∃ xs, first = some xs ∧ t.Answers false idOf Listed start xs
  /-- So has that for a listed course. -/
  course : ∀ x, Listed x → t.isCourseNode (idOf x) →
    ∃ ys, next x = some ys ∧ t.Answers false idOf Listed (idOf x) ys
  /-- Nothing is asked of what is no course. -/
  other : ∀ x, Listed x → ¬ t.isCourseNode (idOf x) → next x = none
  /-- Every course is listed. -/
  listed : ∀ course, t.isCourseNode course → ∃ x, Listed x ∧ idOf x = course

namespace Asked

variable {first : Option (List α)} {next : α → Option (List α)}
  (h : Asked t idOf Listed start first next)

include h

/-- What is answered in turn is listed, and ways through courses lead to it. -/
theorem leads_of_inTurn {x : α} (hx : InTurn first next x) :
    Listed x ∧ t.Leads true start (idOf x) := by
  induction hx with
  | first answer mem =>
    obtain ⟨xs, hxs, hmem⟩ := h.first
    obtain rfl : _ = xs := Option.some.inj (answer.symm.trans hxs)
    obtain ⟨hlisted, -, hleads⟩ := (hmem _).1 mem
    exact ⟨hlisted, hleads.throughCourses⟩
  | @next x y ys before answer mem ih =>
    obtain ⟨hlisted, hleads⟩ := ih
    by_cases hcourse : t.isCourseNode (idOf x)
    · obtain ⟨zs, hzs, hmem⟩ := h.course x hlisted hcourse
      obtain rfl : ys = zs := Option.some.inj (answer.symm.trans hzs)
      obtain ⟨hlisted', -, hleads'⟩ := (hmem y).1 mem
      exact ⟨hlisted', hleads.trans hleads'⟩
    · rw [h.other x hlisted hcourse] at answer
      exact absurd answer (by simp)

/-- What is listed and is not the start is answered in turn if ways lead to it. -/
theorem inTurn_of_relayed (hid : t.Relayed start id) {x : α} (hlisted : Listed x)
    (hx : idOf x = id) (hne : id ≠ start) : InTurn first next x := by
  obtain ⟨xs, hxs, hfirst⟩ := h.first
  induction hid generalizing x with
  | @way id way =>
    subst hx
    exact .first hxs ((hfirst x).2 ⟨hlisted, hne, way⟩)
  | @relay course id before isCourse way ih =>
    subst hx
    by_cases hown : course = start
    · -- The ways so far have come back to the start, and the last one begins there.
      subst hown
      exact .first hxs ((hfirst x).2 ⟨hlisted, hne, way⟩)
    by_cases hself : idOf x = course
    · -- The last way comes back to where it begins, so the ways before it lead there too.
      exact ih hlisted hself hown
    · obtain ⟨c, hc, rfl⟩ := h.listed course isCourse
      obtain ⟨ys, hys, hnext⟩ := h.course c hc isCourse
      exact .next (ih hc rfl hown) hys ((hnext x).2 ⟨hlisted, hself, way⟩)

/-- What is answered in turn, the start aside, is what a question would be answered whose ways go on
through courses. -/
theorem inTurn_iff {xs : List α} (hxs : t.Answers true idOf Listed start xs) (x : α) :
    x ∈ xs ↔ InTurn first next x ∧ idOf x ≠ start := by
  rw [hxs x]
  constructor
  · rintro ⟨hlisted, hne, hleads⟩
    exact ⟨h.inTurn_of_relayed (relayed_iff.2 hleads) hlisted rfl hne, hne⟩
  · rintro ⟨hturn, hne⟩
    obtain ⟨hlisted, hleads⟩ := h.leads_of_inTurn hturn
    exact ⟨hlisted, hne, hleads⟩

end Asked

end

/-! ## The two queries -/

variable {d : CourseRow}

/-- What a course needs answers where ways lead from its node, in nodes. -/
theorem answers_requisitesFor (h : t.CoursesApart) (hd : d ∈ t.courses) {reqs : Requisites}
    (hreqs : t.requisitesFor d.key transitive = some reqs) :
    t.Answers transitive Node.id (fun n => t.node? n.id = some n) d.nodeId reqs.nodes := by
  intro n
  rw [(requisitesFor_eq h hd hreqs).2.1, mem_filterMap_node?, mem_met_forward]

/-- What depends on a node answers where the reversed ways lead from it, in courses. -/
theorem answers_dependentsOf (h : t.CoursesApart) {deps : List CourseRow}
    (hdeps : t.dependentsOf id transitive = some deps) :
    t.reversed.Answers transitive CourseRow.nodeId (· ∈ t.courses) id deps := by
  intro d
  rw [leads_reversed_iff]
  constructor
  · intro hd
    have hcourse := mem_courses_of_dependentsOf hdeps hd
    exact ⟨hcourse, (mem_of_dependentsOf h hcourse hdeps).1 hd⟩
  · rintro ⟨hcourse, hleads⟩
    exact (mem_of_dependentsOf h hcourse hdeps).2 hleads

/-- The nodes that the course with a key needs, where the query ends at other courses. -/
def neededNodes (t : Tables) (key : String × String) : Option (List Node) :=
  (t.requisitesFor key false).map Requisites.nodes

/-- The nodes that a node needs: those that its course needs, if it is that of a course. -/
def neededByNode (t : Tables) (n : Node) : Option (List Node) :=
  (t.courseOfNode? n.id).bind fun d => t.neededNodes d.key

section

variable (h : t.CoursesApart) (hnodes : ∀ d ∈ t.courses, d.nodeId ∈ t.nodes.map Node.id)

include h

/-- The nodes that a stored course needs answer where ways lead from its node. -/
theorem exists_neededNodes (hd : d ∈ t.courses) :
    ∃ ns, t.neededNodes d.key = some ns ∧
      t.Answers false Node.id (fun n => t.node? n.id = some n) d.nodeId ns := by
  obtain ⟨reqs, hreqs⟩ := exists_requisitesFor h hd false
  refine ⟨reqs.nodes, ?_, answers_requisitesFor h hd hreqs⟩
  rw [neededNodes, hreqs]
  rfl

include hnodes

/-- It is asked what a course needs, and then what the courses among its requisites need. -/
theorem asked_neededNodes (hd : d ∈ t.courses) :
    t.Asked Node.id (fun n => t.node? n.id = some n) d.nodeId (t.neededNodes d.key)
      t.neededByNode where
  first := exists_neededNodes h hd
  course n _ hcourse := by
    obtain ⟨c, hc⟩ := Option.isSome_iff_exists.1 hcourse
    obtain ⟨hstored, hnode⟩ := courseOfNode?_eq_some hc
    obtain ⟨ns, hns, hanswers⟩ := exists_neededNodes h hstored
    refine ⟨ns, ?_, hnode ▸ hanswers⟩
    rw [neededByNode, hc]
    exact hns
  other n _ hcourse := by
    have hnone : t.courseOfNode? n.id = none := by simpa [isCourseNode] using hcourse
    rw [neededByNode, hnone]
    rfl
  listed course hcourse := by
    obtain ⟨c, hc, rfl⟩ := List.mem_map.1 (isCourseNode_iff.1 hcourse)
    obtain ⟨n, hn⟩ := Option.isSome_iff_exists.1 (isSome_node?_iff.2 (hnodes c hc))
    have hid : n.id = c.nodeId := id_of_node?_eq_some hn
    exact ⟨n, by rwa [hid], hid⟩

/-- It is asked what depends on a node, and then what depends on these courses. -/
theorem asked_dependentsOf (hid : id ∈ t.nodes.map Node.id) :
    t.reversed.Asked CourseRow.nodeId (· ∈ t.courses) id (t.dependentsOf id false)
      (fun d => t.dependentsOf d.nodeId false) where
  first := by
    obtain ⟨deps, hdeps⟩ := (exists_dependentsOf_iff false).2 hid
    exact ⟨deps, hdeps, answers_dependentsOf h hdeps⟩
  course d hd _ := by
    obtain ⟨deps, hdeps⟩ := (exists_dependentsOf_iff false).2 (hnodes d hd)
    exact ⟨deps, hdeps, answers_dependentsOf h hdeps⟩
  other d hd hcourse := absurd (isCourseNode_iff.2 (List.mem_map_of_mem hd)) hcourse
  listed _ hcourse := List.mem_map.1 (isCourseNode_iff.1 hcourse)

end

/-! ## The order of the answers -/

/-- A walk against the relations meets nothing twice. -/
theorem nodup_met_backward (t : Tables) (transitive : Bool) (start : String) :
    (t.backward transitive t.walkLength (.start start)).met.Nodup := by
  have hlength : t.reversed.walkLength = t.walkLength := by simp [walkLength, reversed]
  have hmet : (t.backward transitive t.walkLength (.start start)).met =
      (t.reversed.forward transitive t.walkLength (.start start)).met :=
    (congrArg Walk.met (backward_eq t transitive t.walkLength (.start start)) :)
  obtain ⟨left, hleft, -⟩ := exists_left_forward t.reversed transitive start
  have hseen := hleft.seen_apart
  rw [hleft.seen, hlength, ← hmet] at hseen
  exact (List.nodup_cons.1 hseen).2

/-- Courses are ordered by key, first by subject area and then by catalog number. -/
theorem courseLe_iff {c c' : CourseRow} : courseLe c c' = true ↔ toLex c.key ≤ toLex c'.key := by
  rw [Prod.Lex.toLex_le_toLex]
  simp [courseLe, CourseRow.key]

/-- The dependents of a node are in strict order, so none of them is listed twice. -/
theorem pairwise_key_lt_dependentsOf (h : t.CoursesApart) {deps : List CourseRow}
    (hdeps : t.dependentsOf id transitive = some deps) :
    deps.Pairwise fun c c' => toLex c.key < toLex c'.key := by
  have hcourses : ∀ c ∈ deps, c ∈ t.courses := fun c hc => mem_courses_of_dependentsOf hdeps hc
  obtain ⟨-, -, hsort⟩ := Option.map_eq_some_iff.1 hdeps
  dsimp only at hsort
  have hmet := nodup_met_backward t transitive id
  generalize (t.backward transitive t.walkLength (.start id)).met = met at hsort hmet
  have hsorted : deps.Pairwise fun c c' => toLex c.key ≤ toLex c'.key := by
    rw [← hsort]
    simp only [← courseLe_iff]
    refine List.pairwise_mergeSort (fun a b c hab hbc => ?_) (fun a b => ?_) _
    · exact courseLe_iff.2 (le_trans (courseLe_iff.1 hab) (courseLe_iff.1 hbc))
    · rw [Bool.or_eq_true, courseLe_iff, courseLe_iff]
      exact le_total _ _
  have hapart : deps.Nodup := by
    rw [← hsort, (List.mergeSort_perm _ _).nodup_iff]
    -- A course is found for its own node only, and that is met once.
    refine hmet.filterMap fun id id' c hc hc' => ?_
    rw [← (courseOfNode?_eq_some hc).2, (courseOfNode?_eq_some hc').2]
  have hkeys : (deps.map CourseRow.key).Nodup :=
    hapart.map_on fun c hc c' hc' =>
      List.inj_on_of_nodup_map h.keys (hcourses c hc) (hcourses c' hc')
  refine (hsorted.and (List.pairwise_map.1 hkeys)).imp fun ⟨hle, hne⟩ => ?_
  exact lt_of_le_of_ne hle fun heq => hne (toLex.injective heq)

/-- The nodes that a course needs are listed once each. -/
theorem nodup_nodes_of_requisitesFor (h : t.CoursesApart) (hd : d ∈ t.courses)
    {reqs : Requisites} (hreqs : t.requisitesFor d.key transitive = some reqs) :
    (reqs.nodes.map Node.id).Nodup := by
  obtain ⟨left, hleft, -⟩ := exists_left_forward t transitive d.nodeId
  have hseen := hleft.seen_apart
  rw [hleft.seen] at hseen
  rw [(requisitesFor_eq h hd hreqs).2.1]
  exact nodup_map_filterMap_node? (List.nodup_cons.1 hseen).2

/-! ## Both queries -/

/-- Where every course node is stored, the queries that go through courses answer what those that
end at courses answer when they are asked in turn: for the dependents of a node, and for the nodes
that a course needs. What the query starts from is left out. No answer lists anything twice, and
dependents are in the strict order of their keys. -/
theorem inTurn_answers (h : t.CoursesApart)
    (hnodes : ∀ d ∈ t.courses, d.nodeId ∈ t.nodes.map Node.id) :
    (∀ id ∈ t.nodes.map Node.id, ∃ plain deps,
      t.dependentsOf id false = some plain ∧ t.dependentsOf id true = some deps ∧
      (∀ d, d ∈ deps ↔
        InTurn (t.dependentsOf id false) (fun e => t.dependentsOf e.nodeId false) d ∧
          d.nodeId ≠ id) ∧
      (plain.Pairwise fun c c' => toLex c.key < toLex c'.key) ∧
      deps.Pairwise fun c c' => toLex c.key < toLex c'.key) ∧
    ∀ d ∈ t.courses, ∃ plain reqs,
      t.requisitesFor d.key false = some plain ∧ t.requisitesFor d.key true = some reqs ∧
      (∀ n, n ∈ reqs.nodes ↔
        InTurn (t.neededNodes d.key) t.neededByNode n ∧ n.id ≠ d.nodeId) ∧
      (plain.nodes.map Node.id).Nodup ∧ (reqs.nodes.map Node.id).Nodup := by
  constructor
  · intro id hid
    obtain ⟨plain, hplain⟩ := (exists_dependentsOf_iff false).2 hid
    obtain ⟨deps, hdeps⟩ := (exists_dependentsOf_iff true).2 hid
    refine ⟨plain, deps, hplain, hdeps, fun d => ?_, ?_, ?_⟩
    · exact (asked_dependentsOf h hnodes hid).inTurn_iff (answers_dependentsOf h hdeps) d
    · exact pairwise_key_lt_dependentsOf h hplain
    · exact pairwise_key_lt_dependentsOf h hdeps
  · intro d hd
    obtain ⟨plain, hplain⟩ := exists_requisitesFor h hd false
    obtain ⟨reqs, hreqs⟩ := exists_requisitesFor h hd true
    refine ⟨plain, reqs, hplain, hreqs, fun n => ?_, ?_, ?_⟩
    · exact (asked_neededNodes h hnodes hd).inTurn_iff (answers_requisitesFor h hd hreqs) n
    · exact nodup_nodes_of_requisitesFor h hd hplain
    · exact nodup_nodes_of_requisitesFor h hd hreqs

/-- `A` is a requisite of `M 1`, and `M 1` is one of `M 2`. So `M 2` depends on `A` in turn, as the
query that goes through courses says. -/
theorem inTurn_answers_mutualNeed :
    mutualNeed.CoursesApart ∧
      (∀ d ∈ mutualNeed.courses, d.nodeId ∈ mutualNeed.nodes.map Node.id) ∧
      mutualNeed.dependentsOf "A" false =
        some [{ subject := "M", catalog := "1", nodeId := "M#1" }] ∧
      mutualNeed.dependentsOf "A" true =
        some [{ subject := "M", catalog := "1", nodeId := "M#1" },
          { subject := "M", catalog := "2", nodeId := "M#2" }] ∧
      InTurn (mutualNeed.dependentsOf "A" false) (fun e => mutualNeed.dependentsOf e.nodeId false)
        { subject := "M", catalog := "2", nodeId := "M#2" } := by
  have hapart : mutualNeed.CoursesApart := ⟨by decide, by decide⟩
  have hnodes : ∀ d ∈ mutualNeed.courses, d.nodeId ∈ mutualNeed.nodes.map Node.id := by decide
  have hplain : mutualNeed.dependentsOf "A" false =
      some [{ subject := "M", catalog := "1", nodeId := "M#1" }] := by decide +kernel
  -- The two courses are met in the order of their keys, so sorting changes nothing.
  have hfound : (mutualNeed.backward true mutualNeed.walkLength (.start "A")).met.filterMap
      mutualNeed.courseOfNode? = [{ subject := "M", catalog := "1", nodeId := "M#1" },
        { subject := "M", catalog := "2", nodeId := "M#2" }] := by decide +kernel
  have htrue : mutualNeed.dependentsOf "A" true =
      some [{ subject := "M", catalog := "1", nodeId := "M#1" },
        { subject := "M", catalog := "2", nodeId := "M#2" }] := by
    calc mutualNeed.dependentsOf "A" true
        = some (((mutualNeed.backward true mutualNeed.walkLength (.start "A")).met.filterMap
            mutualNeed.courseOfNode?).mergeSort courseLe) := rfl
      _ = some [{ subject := "M", catalog := "1", nodeId := "M#1" },
            { subject := "M", catalog := "2", nodeId := "M#2" }] := by
          rw [hfound, List.mergeSort_of_pairwise (by decide)]
  obtain ⟨-, deps, -, hdeps, hturn, -⟩ := (inTurn_answers hapart hnodes).1 "A" (by decide)
  obtain rfl := Option.some.inj (htrue.symm.trans hdeps)
  exact ⟨hapart, hnodes, hplain, htrue,
    ((hturn _).1 (List.mem_cons_of_mem _ List.mem_cons_self)).1⟩

end Tables

end Requisite
