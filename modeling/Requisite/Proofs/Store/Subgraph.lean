import Requisite.Proofs.Store.Queries

/-!
# The subgraph that a course needs

The answer to what a course needs is the part of the stored graph below one set of ids: the least
set that has the node of the course, and with an id the targets of its relations, but for those at
which a walk ends (`Tables.Opened`). The answer is said by this set alone (`Requisites.Spans`): its
relations are the stored ones from the ids of the set, and its nodes are the stored targets of
these.

A walk keeps a list of the ids that it has left, and `Walk.Left` says what is true of this list at
every step. When the queue is empty the list is the set, in the order in which the walk met it
(`opened_iff`), and the relations are passed in groups in the order of the list.
-/

namespace Requisite

namespace Tables

variable {t : Tables} {transitive : Bool} {start id : String} {d : CourseRow}

/-! ## The set of opened ids -/

/-- The ids whose relations belong to the answer: the start, and the target of every relation from
such an id, unless it is the node of a course and the walk ends at courses. -/
inductive Opened (t : Tables) (transitive : Bool) (start : String) : String → Prop where
  | start : Opened t transitive start start
  | target {r : Relation} (source : Opened t transitive start r.source) (stored : r ∈ t.relations)
      (goesOn : transitive = true ∨ r.target ∉ t.courses.map CourseRow.nodeId) :
      Opened t transitive start r.target

/-- A walk goes on through every id if it is transitive, and else through those of no course. -/
theorem goesThrough_iff :
    t.goesThrough transitive id ↔ transitive = true ∨ id ∉ t.courses.map CourseRow.nodeId := by
  have hnode : t.isCourseNode id = false ↔ id ∉ t.courses.map CourseRow.nodeId := by
    rw [← isCourseNode_iff, Bool.not_eq_true]
  rw [goesThrough, Bool.or_eq_true, Bool.not_eq_true', hnode]

/-- The opened ids are the start and the ids between on a way. -/
theorem opened_iff : t.Opened transitive start id ↔
    id = start ∨ t.Leads transitive start id ∧ t.goesThrough transitive id := by
  constructor
  · intro h
    induction h with
    | start => exact .inl rfl
    | @target r source stored goesOn ih =>
      have hthrough : t.goesThrough transitive r.target := goesThrough_iff.2 goesOn
      rcases ih with hstart | ⟨hleads, hsource⟩
      · exact .inr ⟨.one hstart stored, hthrough⟩
      · exact .inr ⟨.more hleads hsource stored, hthrough⟩
  · rintro (rfl | ⟨hleads, hthrough⟩)
    · exact .start
    · -- Every id between on the way is opened, from the start on.
      induction hleads with
      | @one r source stored =>
        have hopened : t.Opened transitive start r.source := source ▸ .start
        exact .target hopened stored (goesThrough_iff.1 hthrough)
      | more way through stored ih =>
        exact .target (ih through) stored (goesThrough_iff.1 hthrough)

/-! ## The end of a walk -/

/-- With nothing left to leave from, a walk stays as it is. -/
theorem forward_of_queue_nil {w : Walk} (h : w.queue = []) (fuel : Nat) :
    t.forward transitive fuel w = w := by
  cases fuel with
  | zero => rfl
  | succ fuel => rw [forward, h]

/-- A walk of several steps may be interrupted. -/
theorem forward_add (t : Tables) (transitive : Bool) (fuel more : Nat) (w : Walk) :
    t.forward transitive (fuel + more) w =
      t.forward transitive more (t.forward transitive fuel w) := by
  induction fuel generalizing w with
  | zero => rw [Nat.zero_add, forward]
  | succ fuel ih =>
    rw [Nat.succ_add, forward, forward]
    cases hqueue : w.queue with
    | nil => exact (forward_of_queue_nil hqueue more).symm
    | cons id queue => exact ih _

/-- A walk is over after as many steps as there may be ids to leave, and more steps change
nothing. -/
theorem forward_ends (t : Tables) (transitive : Bool) (start : String) :
    (t.forward transitive t.walkLength (.start start)).queue = [] ∧
      ∀ fuel, t.walkLength ≤ fuel → t.forward transitive fuel (.start start) =
        t.forward transitive t.walkLength (.start start) := by
  have hfuel : t.walkLength ≤ ([] : List String).length + t.walkLength := by simp
  obtain ⟨left, -, hqueue⟩ := (Walk.left_start t transitive start).forward hfuel
  refine ⟨hqueue, fun fuel hle => ?_⟩
  obtain ⟨more, rfl⟩ := Nat.exists_eq_add_of_le hle
  rw [forward_add, forward_of_queue_nil hqueue]

namespace Walk

variable {w : Walk} {left : List String}

/-- A walk leaves no id twice. -/
theorem Left.nodup (h : Left t transitive start left w) : left.Nodup := by
  have hseen : (start :: w.met).Nodup := h.seen ▸ h.seen_apart
  have hall : (start :: w.met.filter (t.goesThrough transitive)).Nodup :=
    hseen.sublist (List.filter_sublist.cons_cons start)
  rw [← h.left_queue] at hall
  exact (List.nodup_append.1 hall).1

/-- When it is over, it has left its start first. -/
theorem Left.head? (h : Left t transitive start left w) (hqueue : w.queue = []) :
    left.head? = some start := by
  have hall := h.left_queue
  rw [hqueue, List.append_nil] at hall
  rw [hall, List.head?_cons]

end Walk

/-! ## Relations by their sources -/

/-- Rows that are picked key by key are those that have one of the keys, each once. -/
theorem perm_flatMap_filter {α κ : Type} [DecidableEq κ] (key : α → κ) (rows : List α)
    {keys : List κ} (h : keys.Nodup) :
    (keys.flatMap fun k => rows.filter fun x => key x = k).Perm
      (rows.filter fun x => key x ∈ keys) := by
  induction keys with
  | nil => simp
  | cons k keys ih =>
    obtain ⟨hk, hkeys⟩ := List.nodup_cons.1 h
    -- The rows with one of the keys are those with the first key and those with one of the others.
    have hfirst : (rows.filter fun x => key x ∈ k :: keys).filter (fun x => key x = k) =
        rows.filter fun x => key x = k := by
      rw [List.filter_filter]
      refine List.filter_congr fun x _ => ?_
      by_cases hx : key x = k <;> simp [hx]
    have hothers : (rows.filter fun x => key x ∈ k :: keys).filter (fun x => !decide (key x = k)) =
        rows.filter fun x => key x ∈ keys := by
      rw [List.filter_filter]
      refine List.filter_congr fun x _ => ?_
      by_cases hx : key x = k
      · simp [hx, hk]
      · simp [hx]
    rw [List.flatMap_cons]
    refine ((ih hkeys).append_left _).trans ?_
    rw [← hfirst, ← hothers]
    exact List.filter_append_perm _ _

/-! ## The answer -/

/-- The answer for the course `d`, said without a walk. Its relations are those from the ids
`sources`. -/
structure Requisites.Spans (t : Tables) (transitive : Bool) (d : CourseRow) (sources : List String)
    (reqs : Requisites) : Prop where
  course : reqs.course = d
  /-- The ids are the opened ones, each once, and the first is the course's own. -/
  sources_apart : sources.Nodup
  own_first : sources.head? = some d.nodeId
  mem_sources : ∀ id, id ∈ sources ↔ t.Opened transitive d.nodeId id
  /-- The relations come source by source, and those of one source as they were inserted. -/
  grouped : reqs.relations = sources.flatMap t.outgoing
  /-- They are the stored relations from these sources, each as often as it is stored. -/
  each_once : reqs.relations.Perm (t.relations.filter fun r => r.source ∈ sources)
  /-- The nodes are the stored targets of these relations, each once, but for the course's own. -/
  nodes_apart : (reqs.nodes.map Node.id).Nodup
  mem_nodes : ∀ n, n ∈ reqs.nodes ↔
    t.node? n.id = some n ∧ n.id ≠ d.nodeId ∧ ∃ r ∈ reqs.relations, r.target = n.id
  /-- The root is where the first relation from the course leads, if there is one. -/
  root : reqs.root = (t.outgoing d.nodeId).head?.map Relation.target

/-- The nodes found for ids are those stored with one of them. -/
theorem mem_filterMap_node? {ids : List String} {n : Node} :
    n ∈ ids.filterMap t.node? ↔ t.node? n.id = some n ∧ n.id ∈ ids := by
  rw [List.mem_filterMap]
  constructor
  · rintro ⟨id, hid, hfind⟩
    obtain rfl := id_of_node?_eq_some hfind
    exact ⟨hfind, hid⟩
  · rintro ⟨hfind, hid⟩
    exact ⟨n.id, hid, hfind⟩

/-- Of ids without repeats, the nodes are found without repeats. -/
theorem nodup_map_filterMap_node? {ids : List String} (h : ids.Nodup) :
    ((ids.filterMap t.node?).map Node.id).Nodup := by
  induction ids with
  | nil => exact List.nodup_nil
  | cons id ids ih =>
    obtain ⟨hid, hids⟩ := List.nodup_cons.1 h
    cases hfind : t.node? id with
    | none =>
      rw [List.filterMap_cons_none hfind]
      exact ih hids
    | some n =>
      rw [List.filterMap_cons_some hfind, List.map_cons, id_of_node?_eq_some hfind]
      refine List.nodup_cons.2 ⟨fun hmem => hid ?_, ih hids⟩
      exact (mem_map_filterMap_node?.1 hmem).1

/-- A stored course has an answer, whatever the relations are: the walk for it is over after as many
steps as are allowed, more steps change nothing, and what it has met and passed is the subgraph of
the course. -/
theorem exists_requisitesFor_spans {key : String × String} (hd : t.course? key = some d)
    (transitive : Bool) :
    ∃ (w : Walk) (reqs : Requisites) (sources : List String),
      w.queue = [] ∧
      (∀ fuel, t.walkLength ≤ fuel → t.forward transitive fuel (.start d.nodeId) = w) ∧
      t.requisitesFor key transitive = some reqs ∧ reqs.relations = w.relations ∧
      reqs.Spans t transitive d sources := by
  obtain ⟨hqueue, hmore⟩ := forward_ends t transitive d.nodeId
  obtain ⟨left, hleft, hall⟩ := exists_left_forward t transitive d.nodeId
  have hmet := @mem_met_forward t transitive d.nodeId
  have hroot := @head?_relations_forward t transitive d.nodeId
  have hreqs : t.requisitesFor key transitive = some
      { course := d
        root := (t.forward transitive t.walkLength (.start d.nodeId)).relations.head?.map
          Relation.target
        nodes := (t.forward transitive t.walkLength (.start d.nodeId)).met.filterMap t.node?
        relations := (t.forward transitive t.walkLength (.start d.nodeId)).relations } := by
    rw [requisitesFor, hd]
    rfl
  generalize t.forward transitive t.walkLength (.start d.nodeId) = w at *
  refine ⟨w, _, left, hqueue, hmore, hreqs, rfl, ?_⟩
  constructor
  · rfl
  · exact hleft.nodup
  · exact hleft.head? hqueue
  · intro id
    have hid : id ∈ left ↔ id = d.nodeId ∨ id ∈ w.met ∧ t.goesThrough transitive id := by
      rw [hall, List.mem_cons, List.mem_filter]
    rw [hid, hmet, opened_iff]
    by_cases hown : id = d.nodeId <;> simp [hown]
  · exact hleft.relations
  · show w.relations.Perm _
    rw [hleft.relations]
    exact perm_flatMap_filter Relation.source t.relations hleft.nodup
  · have hseen : (d.nodeId :: w.met).Nodup := hleft.seen ▸ hleft.seen_apart
    exact nodup_map_filterMap_node? (List.nodup_cons.1 hseen).2
  · intro n
    show n ∈ w.met.filterMap t.node? ↔ _
    rw [mem_filterMap_node?, hleft.met]
  · show w.relations.head?.map Relation.target = _
    rw [hroot]

/-- The walk for `M 1` that goes through courses comes back to both courses, and is over all the
same. -/
theorem exists_requisitesFor_spans_mutualNeed :
    mutualNeed.course? ("M", "1") = some { subject := "M", catalog := "1", nodeId := "M#1" } ∧
      ∃ (w : Walk) (reqs : Requisites) (sources : List String),
        w.queue = [] ∧
        (∀ fuel, mutualNeed.walkLength ≤ fuel →
          mutualNeed.forward true fuel (.start "M#1") = w) ∧
        mutualNeed.requisitesFor ("M", "1") true = some reqs ∧ reqs.relations = w.relations ∧
        reqs.Spans mutualNeed true { subject := "M", catalog := "1", nodeId := "M#1" } sources := by
  have hstored : mutualNeed.course? ("M", "1") =
      some { subject := "M", catalog := "1", nodeId := "M#1" } := by decide
  exact ⟨hstored, exists_requisitesFor_spans hstored true⟩

end Tables

end Requisite
