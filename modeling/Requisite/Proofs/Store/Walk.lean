import Mathlib.Data.List.Perm.Subperm
import Requisite.Store.Reach

/-!
# What the walks over the relations meet

`Leads` says that relations lead from one id to another, through ids at which a walk does not end.
A walk from an id meets exactly the other ids to which they lead (`mem_met_forward`), and passes the
relations from those it goes on through (`mem_relations_forward`). The proof carries `Walk.Left`,
which says what a walk is after it has left from a list of ids: these and its queue are, in order,
the start and what it met and goes on through. So it meets nothing twice, and it is over before it
could run out of steps.

A walk against the relations is a walk along the reversed ones (`backward_eq`), and ways turn around
with their relations (`leads_reversed_iff`). Hence a course depends on a node exactly when the node
is among its requisites.
-/

namespace Requisite

namespace Tables

variable {t : Tables} {transitive : Bool} {start id : String}

/-! ## Ways over the relations -/

/-- Relations lead from `start` to the id, and a walk goes on through every id between them. -/
inductive Leads (t : Tables) (transitive : Bool) (start : String) : String → Prop where
  /-- One relation leads there. -/
  | one {r : Relation} (source : r.source = start) (stored : r ∈ t.relations) :
      Leads t transitive start r.target
  /-- A way leads to where one more relation starts. -/
  | more {r : Relation} (way : Leads t transitive start r.source)
      (through : t.goesThrough transitive r.source) (stored : r ∈ t.relations) :
      Leads t transitive start r.target

/-- A way may have one more relation at its beginning. -/
theorem Leads.before {r : Relation} (stored : r ∈ t.relations)
    (through : t.goesThrough transitive r.target) (h : t.Leads transitive r.target id) :
    t.Leads transitive r.source id := by
  induction h with
  | one source stored' =>
    refine .more ?_ (source ▸ through) stored'
    rw [source]
    exact .one rfl stored
  | more way through' stored' ih => exact .more ih through' stored'

/-- Every way begins with a relation from its start. -/
theorem Leads.exists_outgoing (h : t.Leads transitive start id) : ∃ r, r ∈ t.outgoing start := by
  induction h with
  | @one r source stored => exact ⟨r, List.mem_filter.2 ⟨stored, decide_eq_true source⟩⟩
  | more way through stored ih => exact ih

/-! ## Steps of a walk -/

/-- The relations from a node are those stored with it as their source. -/
theorem mem_outgoing {r : Relation} : r ∈ t.outgoing id ↔ r ∈ t.relations ∧ r.source = id := by
  simp [outgoing]

namespace Walk

variable {w : Walk}

/-- What is fresh was not met before. -/
theorem mem_fresh {ids : List String} : id ∈ w.fresh ids ↔ id ∈ ids ∧ id ∉ w.seen := by
  rw [fresh, List.mem_filter, mem_firsts_id]
  simp

/-- Nothing is fresh twice. -/
theorem nodup_fresh (ids : List String) : (w.fresh ids).Nodup :=
  (nodup_firsts ids).filter _

/-- The walk `w` from `start`, after it has left from the ids `left`. -/
structure Left (t : Tables) (transitive : Bool) (start : String) (left : List String) (w : Walk) :
    Prop where
  /-- It has seen the start and what it met. -/
  seen : w.seen = start :: w.met
  /-- It has seen nothing twice. -/
  seen_apart : w.seen.Nodup
  /-- It has left, or is still to leave, from its start and from what it met and goes on through. -/
  left_queue : left ++ w.queue = start :: w.met.filter (t.goesThrough transitive)
  /-- It has passed the relations from the ids that it has left. -/
  relations : w.relations = left.flatMap t.outgoing
  /-- It has met the targets of these relations, the start aside. -/
  met : ∀ id, id ∈ w.met ↔ id ≠ start ∧ ∃ r ∈ w.relations, r.target = id
  /-- Relations lead to what it met. -/
  leads : ∀ id ∈ w.met, t.Leads transitive start id

/-- A walk begins with its start in the queue. -/
theorem left_start (t : Tables) (transitive : Bool) (start : String) :
    Left t transitive start [] (.start start) where
  seen := rfl
  seen_apart := by simp [Walk.start]
  left_queue := rfl
  relations := rfl
  met := by simp [Walk.start]
  leads := by simp [Walk.start]

/-- A walk has left, or is still to leave, from its start and from the ids between on a way. -/
theorem Left.mem_left_queue {left : List String} (h : Left t transitive start left w) :
    id ∈ left ++ w.queue ↔ id = start ∨ id ∈ w.met ∧ t.goesThrough transitive id := by
  rw [h.left_queue, List.mem_cons, List.mem_filter]

/-- A walk that leaves the first id of its queue has left from one more id. -/
theorem Left.leave {left queue : List String} (h : Left t transitive start left w)
    (hqueue : w.queue = id :: queue) :
    Left t transitive start (left ++ [id])
      (w.leave (t.goesThrough transitive) queue (t.outgoing id)
        ((t.outgoing id).map Relation.target)) := by
  have hid : id = start ∨ id ∈ w.met ∧ t.goesThrough transitive id :=
    h.mem_left_queue.1 (by simp [hqueue])
  -- A way to `id` goes on with each of the relations from it.
  have hleads : ∀ r ∈ t.outgoing id, t.Leads transitive start r.target := by
    intro r hr
    obtain ⟨hstored, hsource⟩ := mem_outgoing.1 hr
    rcases hid with rfl | ⟨hmet, hthrough⟩
    · exact .one hsource hstored
    · exact .more (hsource ▸ h.leads id hmet) (hsource ▸ hthrough) hstored
  have hfresh (target : String) : target ∈ w.fresh ((t.outgoing id).map Relation.target) ↔
      (∃ r ∈ t.outgoing id, r.target = target) ∧ target ≠ start ∧ target ∉ w.met := by
    rw [mem_fresh, List.mem_map, h.seen, List.mem_cons, not_or]
  constructor
  · simp only [Walk.leave]
    rw [h.seen, List.cons_append]
  · refine List.nodup_append.2 ⟨h.seen_apart, nodup_fresh _, fun a ha b hb hab => ?_⟩
    exact (mem_fresh.1 hb).2 (hab ▸ ha)
  · have hbefore := h.left_queue
    rw [hqueue] at hbefore
    simp only [Walk.leave]
    rw [List.filter_append, ← List.cons_append, ← hbefore]
    simp
  · simp only [Walk.leave]
    rw [h.relations, List.flatMap_append, List.flatMap_singleton]
  · intro target
    simp only [Walk.leave, List.mem_append]
    rw [h.met, hfresh, h.met]
    constructor
    · rintro (⟨hne, r, hr, rfl⟩ | ⟨⟨r, hr, rfl⟩, hne, -⟩)
      · exact ⟨hne, r, .inl hr, rfl⟩
      · exact ⟨hne, r, .inr hr, rfl⟩
    · rintro ⟨hne, r, hr, rfl⟩
      by_cases hold : ∃ r' ∈ w.relations, r'.target = r.target
      · exact .inl ⟨hne, hold⟩
      · refine .inr ⟨⟨r, hr.resolve_left fun hr => hold ⟨r, hr, rfl⟩, rfl⟩, hne, ?_⟩
        exact fun hmet => hold hmet.2
  · intro target htarget
    rcases List.mem_append.1 htarget with hold | hnew
    · exact h.leads target hold
    · obtain ⟨⟨r, hr, rfl⟩, -⟩ := (hfresh target).1 hnew
      exact hleads r hr

/-- A walk leaves at most once from its start and from the target of each relation. -/
theorem Left.length_le {left : List String} (h : Left t transitive start left w) :
    left.length + w.queue.length ≤ t.walkLength := by
  -- What it has met is without repetition, and only targets of stored relations are met.
  have hmet : w.met.Nodup := (List.nodup_cons.1 (h.seen ▸ h.seen_apart)).2
  have hsub : w.met ⊆ t.relations.map Relation.target := by
    intro id hid
    obtain ⟨-, r, hr, rfl⟩ := (h.met id).1 hid
    rw [h.relations, List.mem_flatMap] at hr
    obtain ⟨source, -, hr⟩ := hr
    exact List.mem_map_of_mem (mem_outgoing.1 hr).1
  have hmetlen : w.met.length ≤ t.relations.length := by
    simpa using (hmet.subperm hsub).length_le
  have hfilter := List.length_filter_le (t.goesThrough transitive) w.met
  have hlen := congrArg List.length h.left_queue
  rw [List.length_append, List.length_cons] at hlen
  unfold walkLength
  omega

/-- A walk ends with nothing in its queue, if it has as many steps as there may be ids to leave. -/
theorem Left.forward {left : List String} {fuel : Nat} (h : Left t transitive start left w)
    (hfuel : t.walkLength ≤ left.length + fuel) :
    ∃ left', Left t transitive start left' (t.forward transitive fuel w) ∧
      (t.forward transitive fuel w).queue = [] := by
  induction fuel generalizing left w with
  | zero =>
    have hlen := h.length_le
    have hqueue : w.queue.length = 0 := by omega
    exact ⟨left, h, List.length_eq_zero_iff.1 hqueue⟩
  | succ fuel ih =>
    rw [Tables.forward]
    cases hqueue : w.queue with
    | nil => exact ⟨left, h, hqueue⟩
    | cons id queue =>
      refine ih (h.leave hqueue) ?_
      rw [List.length_append, List.length_singleton]
      omega

end Walk

/-! ## Walks along the relations -/

/-- The walk along the relations from an id, until there is nothing left to leave from. -/
theorem exists_left_forward (t : Tables) (transitive : Bool) (start : String) :
    ∃ left, Walk.Left t transitive start left
        (t.forward transitive t.walkLength (.start start)) ∧
      left = start :: (t.forward transitive t.walkLength (.start start)).met.filter
        (t.goesThrough transitive) := by
  have hfuel : t.walkLength ≤ ([] : List String).length + t.walkLength := by simp
  obtain ⟨left, hleft, hqueue⟩ := (Walk.left_start t transitive start).forward hfuel
  have hall := hleft.left_queue
  rw [hqueue, List.append_nil] at hall
  exact ⟨left, hleft, hall⟩

/-- A walk meets the ids to which relations lead from its start, the start aside. -/
theorem mem_met_forward :
    id ∈ (t.forward transitive t.walkLength (.start start)).met ↔
      id ≠ start ∧ t.Leads transitive start id := by
  obtain ⟨left, hleft, hall⟩ := exists_left_forward t transitive start
  generalize t.forward transitive t.walkLength (.start start) = w at hleft hall ⊢
  -- The walk is over, so it has left from all that it met and goes on through. The target of a
  -- relation is met, if the walk has left from its source.
  have hpassed : ∀ r ∈ t.relations, r.source ∈ left → r.target = start ∨ r.target ∈ w.met := by
    intro r hr hsource
    by_cases hstart : r.target = start
    · exact .inl hstart
    · refine .inr ((hleft.met _).2 ⟨hstart, r, ?_, rfl⟩)
      rw [hleft.relations, List.mem_flatMap]
      exact ⟨r.source, hsource, mem_outgoing.2 ⟨hr, rfl⟩⟩
  constructor
  · intro hid
    exact ⟨((hleft.met id).1 hid).1, hleft.leads id hid⟩
  · rintro ⟨hne, hleads⟩
    have hreached : id = start ∨ id ∈ w.met := by
      clear hne
      induction hleads with
      | one source stored => exact hpassed _ stored (by rw [source, hall]; exact List.mem_cons_self)
      | @more r way through stored ih =>
        refine hpassed r stored ?_
        rw [hall, List.mem_cons, List.mem_filter]
        exact ih.imp_right fun hmet => ⟨hmet, through⟩
    exact hreached.resolve_left hne

/-- A walk passes the stored relations from its start, and from what it meets and goes on
through. -/
theorem mem_relations_forward {r : Relation} :
    r ∈ (t.forward transitive t.walkLength (.start start)).relations ↔
      r ∈ t.relations ∧ (r.source = start ∨
        t.Leads transitive start r.source ∧ t.goesThrough transitive r.source) := by
  obtain ⟨left, hleft, hall⟩ := exists_left_forward t transitive start
  rw [hleft.relations, List.mem_flatMap, hall]
  simp only [List.mem_cons, List.mem_filter, mem_met_forward, mem_outgoing]
  constructor
  · rintro ⟨source, hsource, hr, rfl⟩
    exact ⟨hr, hsource.imp_right fun h => ⟨h.1.2, h.2⟩⟩
  · rintro ⟨hr, hsource⟩
    refine ⟨r.source, ?_, hr, rfl⟩
    by_cases hstart : r.source = start
    · exact .inl hstart
    · exact hsource.imp_right fun h => ⟨⟨hstart, h.1⟩, h.2⟩

/-- The first relation that a walk passes is the first one from its start. -/
theorem head?_relations_forward :
    (t.forward transitive t.walkLength (.start start)).relations.head? =
      (t.outgoing start).head? := by
  obtain ⟨left, hleft, hall⟩ := exists_left_forward t transitive start
  rw [hleft.relations, hall, List.flatMap_cons]
  cases hstart : t.outgoing start with
  | cons r rs => rfl
  | nil =>
    -- Without a relation from the start, nothing is met.
    have hmet : (t.forward transitive t.walkLength (.start start)).met = [] := by
      refine List.eq_nil_iff_forall_not_mem.2 fun id hid => ?_
      obtain ⟨r, hr⟩ := (mem_met_forward.1 hid).2.exists_outgoing
      rw [hstart] at hr
      exact List.not_mem_nil hr
    rw [hmet]
    rfl

end Tables

/-! ## Turning around -/

/-- The relation the other way around. -/
def Relation.reversed (r : Relation) : Relation :=
  { r with source := r.target, target := r.source }

namespace Tables

variable {t : Tables} {transitive : Bool} {start id : String}

/-- The tables with every relation the other way around. -/
def reversed (t : Tables) : Tables :=
  { t with relations := t.relations.map Relation.reversed }

/-- The walk with every relation that it passed the other way around. -/
def Walk.reversed (w : Walk) : Walk :=
  { w with relations := w.relations.map Relation.reversed }

/-- Turned around twice, the tables are as they were. -/
@[simp] theorem reversed_reversed (t : Tables) : t.reversed.reversed = t := by
  have hid : Relation.reversed ∘ Relation.reversed = id := rfl
  simp [reversed, hid]

/-- A way turns around with the relations. -/
theorem Leads.reversed (h : t.Leads transitive start id) :
    t.reversed.Leads transitive id start := by
  have hstored {r : Relation} (hr : r ∈ t.relations) : r.reversed ∈ t.reversed.relations :=
    List.mem_map_of_mem hr
  induction h with
  | @one r source stored =>
    rw [← source]
    exact .one (r := r.reversed) rfl (hstored stored)
  | @more r way through stored ih =>
    exact Leads.before (r := r.reversed) (hstored stored) through ih

/-- Relations lead from one id to another exactly when the reversed ones lead back. -/
theorem leads_reversed_iff : t.reversed.Leads transitive id start ↔ t.Leads transitive start id :=
  ⟨fun h => by simpa using h.reversed, Leads.reversed⟩

/-- The relations to a node are those from it, turned around. -/
theorem map_reversed_incoming : (t.incoming id).map Relation.reversed = t.reversed.outgoing id := by
  rw [incoming, outgoing, reversed, List.filter_map]
  rfl

/-- A walk against the relations is a walk along the reversed ones. -/
theorem backward_eq (t : Tables) (transitive : Bool) (fuel : Nat) (w : Walk) :
    (t.backward transitive fuel w).reversed = t.reversed.forward transitive fuel w.reversed := by
  induction fuel generalizing w with
  | zero => rfl
  | succ fuel ih =>
    rw [backward, forward]
    cases hqueue : w.queue with
    | nil => simp [Walk.reversed, hqueue]
    | cons id queue =>
      have htargets : (t.reversed.outgoing id).map Relation.target =
          (t.incoming id).map Relation.source := by
        rw [← map_reversed_incoming, List.map_map]
        rfl
      simp only [Walk.reversed, hqueue]
      refine (ih _).trans ?_
      rw [htargets, ← map_reversed_incoming]
      simp only [Walk.reversed, Walk.leave, List.map_append]
      rfl

/-- A walk against the relations meets the ids from which they lead to its start, the start
aside. -/
theorem mem_met_backward :
    id ∈ (t.backward transitive t.walkLength (.start start)).met ↔
      id ≠ start ∧ t.Leads transitive id start := by
  have hlength : t.reversed.walkLength = t.walkLength := by simp [walkLength, reversed]
  have hmet := congrArg Walk.met (backward_eq t transitive t.walkLength (.start start))
  rw [← leads_reversed_iff, ← mem_met_forward, hlength]
  exact iff_of_eq (congrArg (id ∈ ·) hmet)

end Tables

end Requisite
