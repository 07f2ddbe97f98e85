import Mathlib.Data.List.Basic
import Requisite.Proofs.Expr.Connected
import Requisite.Proofs.Runs.Kinds

/-!
# Chains unfold to leaves

The graph of a run has cycles, since courses are requisites of each other. But a relation from a
chain leads to a node with a shorter id, whichever text it comes from and whichever other chains
share the node (`Graph.relation_cases`): the id of a chain is written with the ids of its members
in it, and a member's node leaves out brackets at most. So a cycle has to pass through a course that
owns an expression, whose relation to its root is the only kind that may lead to a longer id, and a
chain unfolds, through the chains below it, to a list of leaves (`descends_run`).
-/

namespace Requisite

namespace Graph

/-! ## Cycles -/

/-- Relations of the graph that lead each to the source of the next, and the last to that of the
first. -/
structure Cycle (g : Graph) (rs : List Relation) : Prop where
  ne_nil : rs ≠ []
  stored : ∀ r ∈ rs, r ∈ g.relations
  joined : rs.IsChain fun r s => r.target = s.source
  closed : ∀ first ∈ rs.head?, ∀ last ∈ rs.getLast?, last.target = first.source

/-- Along relations that lead to shorter ids, each to the source of the next, ids get shorter. -/
theorem length_target_lt {r : Relation} {rs : List Relation}
    (hjoined : (r :: rs).IsChain fun r s => r.target = s.source)
    (hshorter : ∀ s ∈ r :: rs, s.target.length < s.source.length) {last : Relation}
    (hlast : last ∈ (r :: rs).getLast?) : last.target.length < r.source.length := by
  induction rs generalizing r with
  | nil =>
    obtain rfl : r = last := by simpa using hlast
    exact hshorter r List.mem_cons_self
  | cons s rs ih =>
    obtain ⟨hnext, hjoined⟩ := List.isChain_cons_cons.1 hjoined
    obtain ⟨hr, hshorter⟩ := List.forall_mem_cons.1 hshorter
    rw [List.getLast?_cons_cons] at hlast
    have hrest := ih hjoined hshorter hlast
    rw [← hnext] at hrest
    omega

/-- So on every cycle some relation does not lead to a shorter id. -/
theorem Cycle.exists_not_shorter {g : Graph} {rs : List Relation} (h : g.Cycle rs) :
    ∃ r ∈ rs, ¬ r.target.length < r.source.length := by
  obtain ⟨r, rs, rfl⟩ := List.exists_cons_of_ne_nil h.ne_nil
  by_contra hnone
  have hshorter : ∀ s ∈ r :: rs, s.target.length < s.source.length := by
    intro s hs
    by_contra hlonger
    exact hnone ⟨s, hs, hlonger⟩
  obtain ⟨last, hlast⟩ : ∃ last, last ∈ (r :: rs).getLast? :=
    ⟨_, List.getLast?_eq_getLast_of_ne_nil h.ne_nil⟩
  have hlt := length_target_lt h.joined hshorter hlast
  have heq : last.target = r.source := h.closed r rfl last hlast
  rw [heq] at hlt
  omega

/-! ## Unfolding -/

/-- What a node unfolds to: a node without a connective to itself, and one with a connective to
what the targets of its relations unfold to, one after the other. -/
inductive Unfolds (g : Graph) : String → List String → Prop where
  | leaf {id : String} (plain : g.connective? id = none) : Unfolds g id [id]
  | chain {id : String} {op : Connective} {leaves : String → List String}
      (connective : g.connective? id = some op)
      (targets : ∀ t ∈ g.targets id, Unfolds g t (leaves t)) :
      Unfolds g id ((g.targets id).flatMap leaves)

variable {g : Graph} {id : String} {leaves : List String}

/-- A node unfolds to one list of leaves at most. -/
theorem Unfolds.unique {leaves' : List String} (h : g.Unfolds id leaves)
    (h' : g.Unfolds id leaves') : leaves = leaves' := by
  induction h generalizing leaves' with
  | leaf plain =>
    cases h' with
    | leaf => rfl
    | chain connective => simp [plain] at connective
  | chain connective targets ih =>
    cases h' with
    | leaf plain => simp [plain] at connective
    | chain _ targets' => exact List.flatMap_congr fun t ht => ih t ht (targets' t ht)

/-- Where the value of a node is computed from others in finitely many steps, the node unfolds. -/
theorem exists_unfolds (wf : WellFounded g.Feeds) (id : String) :
    ∃ leaves, g.Unfolds id leaves := by
  induction id using wf.induction with
  | _ id ih =>
    cases hop : g.connective? id with
    | none => exact ⟨[id], .leaf hop⟩
    | some op =>
      -- The leaves are chosen for every id at once, which makes them a function of the target.
      have htargets (t : String) : ∃ leaves, t ∈ g.targets id → g.Unfolds t leaves := by
        by_cases ht : t ∈ g.targets id
        · obtain ⟨leaves, hleaves⟩ := ih t ⟨⟨op, hop⟩, ht⟩
          exact ⟨leaves, fun _ => hleaves⟩
        · exact ⟨[], fun hmem => absurd hmem ht⟩
      choose leaves hleaves using htargets
      exact ⟨_, .chain hop hleaves⟩

/-- If every relation leads to a node, a node unfolds to nodes without connectives. -/
theorem Unfolds.mem_leaves (h : g.Unfolds id leaves) (hid : id ∈ g.nodes.map Node.id)
    (htargets : ∀ r ∈ g.relations, r.target ∈ g.nodes.map Node.id) {l : String} (hl : l ∈ leaves) :
    l ∈ g.nodes.map Node.id ∧ g.connective? l = none := by
  induction h with
  | leaf plain =>
    obtain rfl := List.mem_singleton.1 hl
    exact ⟨hid, plain⟩
  | chain connective targets ih =>
    obtain ⟨t, ht, hl⟩ := List.mem_flatMap.1 hl
    obtain ⟨r, hr, -, rfl⟩ := mem_targets.1 ht
    exact ih _ ht (htargets r hr) hl

/-- Where ids are not used twice, a node without a connective is a single requirement. -/
theorem mem_of_connective?_eq_none (hg : (g.nodes.map Node.id).Nodup)
    (hid : id ∈ g.nodes.map Node.id) (hnone : g.connective? id = none) :
    ⟨id, .value⟩ ∈ g.nodes := by
  obtain ⟨⟨id, kind⟩, hn, rfl⟩ := List.mem_map.1 hid
  rw [connective?_of_mem hg hn] at hnone
  cases kind with
  | value => exact hn
  | and => simp [NodeKind.connective?] at hnone
  | or => simp [NodeKind.connective?] at hnone

/-- If every node with a connective has a target, a node unfolds to a leaf at least. -/
theorem Unfolds.ne_nil (h : g.Unfolds id leaves)
    (hne : ∀ id op, g.connective? id = some op → g.targets id ≠ []) : leaves ≠ [] := by
  induction h with
  | leaf plain => simp
  | @chain id op leaves connective targets ih =>
    obtain ⟨t, ht⟩ := List.exists_mem_of_ne_nil _ (hne id op connective)
    obtain ⟨l, hl⟩ := List.exists_mem_of_ne_nil _ (ih t ht)
    exact List.ne_nil_of_mem (List.mem_flatMap.2 ⟨t, ht, hl⟩)

/-! ## The relations of an accepted text -/

variable {owner text : String}

/-- A relation of an accepted text is that from its owner to the root, or one from a chain to a node
with a shorter id. -/
theorem relation_cases (h : Graph.ofText owner text = .ok g) {r : Relation}
    (hr : r ∈ g.relations) :
    r.source = owner ∧ g.root = some r.target ∨
      NodeKind.ofId r.source ≠ .value ∧ r.target.length < r.source.length := by
  rcases eq_empty_or_exists_reading h with rfl | ⟨d, -, hread⟩
  · simp at hr
  · rcases (hread.relations r).1 hr with rfl | ⟨c, hc, m, hm, rfl⟩
    · exact .inl ⟨rfl, hread.root⟩
    · rw [Relation.source_between, Relation.target_between]
      exact .inr ⟨Reading.ofId_ne_value hc, Derivation.length_nid_lt hc hm⟩

end Graph

namespace Accumulator

/-! ## The graph of a run -/

/-- All that was collected, as one graph. No node stands for the whole. -/
def graph (acc : Accumulator) : Graph where
  nodes := acc.nodes
  courses := acc.courses
  relations := acc.relations

variable {tasks : List Task}

/-- The relations of a run are those of the accepted texts that it merges. -/
theorem mem_relations_run {r : Relation} :
    r ∈ (run {} (stepsOf tasks)).relations ↔ ∃ owner text g, Task.merge owner text ∈ tasks ∧
      Graph.ofText owner text = .ok g ∧ r ∈ g.relations := by
  rw [relations_run, mem_addAll_id, mem_flatMap_stepsOf]
  constructor
  · rintro (hr | ⟨task, htask, hr⟩)
    · exact absurd hr List.not_mem_nil
    · rcases task.steps_cases with ⟨c, rfl, hsteps⟩ | ⟨owner, text, g, rfl, hg, hsteps⟩ | hsteps
      · simp [hsteps, bindSteps, Step.relationsOf] at hr
      · rw [hsteps, flatMap_relationsOf_mergeSteps] at hr
        exact ⟨owner, text, g, htask, hg, hr⟩
      · simp [hsteps] at hr
  · rintro ⟨owner, text, g, htask, hg, hr⟩
    refine .inr ⟨_, htask, ?_⟩
    rwa [Task.steps, hg, flatMap_relationsOf_mergeSteps]

/-- No two nodes of a run share an id. -/
theorem nodup_ids_run (tasks : List Task) :
    ((run {} (stepsOf tasks)).nodes.map Node.id).Nodup := by
  rw [nodes_run]
  exact nodup_map_firsts _ _

/-- A node of a run that is a chain is one of an accepted text that it merges. -/
theorem exists_merge_of_kind_ne {n : Node} (hn : n ∈ (run {} (stepsOf tasks)).nodes)
    (hkind : n.kind ≠ .value) : ∃ owner text g, Task.merge owner text ∈ tasks ∧
      Graph.ofText owner text = .ok g ∧ n ∈ g.nodes := by
  rw [nodes_run] at hn
  have hbrought := (mem_of_mem_addAll hn).resolve_left List.not_mem_nil
  obtain ⟨task, htask, hn⟩ := mem_flatMap_stepsOf.1 hbrought
  rcases task.steps_cases with ⟨c, rfl, hsteps⟩ | ⟨owner, text, g, rfl, hg, hsteps⟩ | hsteps
  · -- A course that is bound brings no chain.
    rw [hsteps, flatMap_nodesOf_bindSteps] at hn
    obtain rfl := List.mem_singleton.1 hn
    exact absurd rfl hkind
  · rw [hsteps, flatMap_nodesOf_mergeSteps] at hn
    exact ⟨owner, text, g, htask, hg, hn⟩
  · simp [hsteps] at hn

/-- A node of a run with a connective is a chain that was recorded. -/
theorem exists_chain_run {id : String} {op : Connective}
    (hop : (run {} (stepsOf tasks)).graph.connective? id = some op) :
    ∃ n ∈ (run {} (stepsOf tasks)).nodes, n.id = id ∧ n.kind ≠ .value := by
  obtain ⟨n, hn, hid, hkind⟩ := Graph.exists_mem_of_connective? hop
  refine ⟨n, hn, hid, fun hvalue => ?_⟩
  simp [hvalue, NodeKind.connective?] at hkind

/-- From every chain that was recorded leads a relation. -/
theorem targets_ne_nil_run {id : String} {op : Connective}
    (hop : (run {} (stepsOf tasks)).graph.connective? id = some op) :
    (run {} (stepsOf tasks)).graph.targets id ≠ [] := by
  obtain ⟨n, hn, rfl, hkind⟩ := exists_chain_run hop
  obtain ⟨owner, text, g, htask, hg, hn⟩ := exists_merge_of_kind_ne hn hkind
  obtain ⟨r, hr, hsource⟩ := Graph.exists_relation_from hg hn hkind
  have hstored := mem_relations_run.2 ⟨owner, text, g, htask, hg, hr⟩
  exact List.ne_nil_of_mem (Graph.mem_targets.2 ⟨r, hstored, hsource, rfl⟩)

section

variable (hbound : ∀ c, Task.bind c ∈ tasks → PlainStart c.nodeId)
  (howners : ∀ owner text, Task.merge owner text ∈ tasks → PlainStart owner)

include hbound

/-- Every relation of a run leads to a node. -/
theorem target_mem_run {r : Relation} (hr : r ∈ (run {} (stepsOf tasks)).relations) :
    r.target ∈ (run {} (stepsOf tasks)).nodes.map Node.id := by
  obtain ⟨owner, text, g, htask, hg, hr⟩ := mem_relations_run.1 hr
  obtain ⟨n, hn, hid⟩ := List.mem_map.1 (Graph.ends_of_ofText hg hr).2
  exact List.mem_map.2 ⟨n, mem_nodes_run hbound htask hg hn, hid⟩

include howners

/-- A relation from a chain leads to a shorter id. -/
theorem length_target_lt_run {r : Relation} (hr : r ∈ (run {} (stepsOf tasks)).relations)
    {n : Node} (hn : n ∈ (run {} (stepsOf tasks)).nodes) (hid : n.id = r.source)
    (hkind : n.kind ≠ .value) : r.target.length < r.source.length := by
  obtain ⟨owner, text, g, htask, hg, hr⟩ := mem_relations_run.1 hr
  rcases Graph.relation_cases hg hr with ⟨hsource, -⟩ | ⟨-, hlt⟩
  · -- The owner is no chain.
    have hvalue := NodeKind.ofId_of_plainStart (howners owner text htask)
    rw [← hsource, ← hid, ← kindsShown_run hbound n hn] at hvalue
    exact absurd hvalue hkind
  · exact hlt

/-- So the value of a chain is computed in finitely many steps. -/
theorem wellFounded_feeds_run : WellFounded (run {} (stepsOf tasks)).graph.Feeds := by
  have hlt {child parent : String} (h : (run {} (stepsOf tasks)).graph.Feeds child parent) :
      child.length < parent.length := by
    obtain ⟨⟨op, hop⟩, htarget⟩ := h
    obtain ⟨n, hn, hid, hkind⟩ := exists_chain_run hop
    obtain ⟨r, hr, hsource, rfl⟩ := Graph.mem_targets.1 htarget
    rw [← hsource]
    exact length_target_lt_run hbound howners hr hn (hid.trans hsource.symm) hkind
  exact Subrelation.wf hlt (measure String.length).wf

end

/-! ## A run over tasks -/

/-- After a run over any tasks, whose courses and owners are no chains, every relation from a chain
leads to a shorter id. So every cycle passes through the owner of an expression that was merged, by
its relation to the root, and every chain unfolds to one list of single requirements, which has one
at least. -/
theorem descends_run (hbound : ∀ c, Task.bind c ∈ tasks → PlainStart c.nodeId)
    (howners : ∀ owner text, Task.merge owner text ∈ tasks → PlainStart owner) :
    (∀ r ∈ (run {} (stepsOf tasks)).relations, ∀ n ∈ (run {} (stepsOf tasks)).nodes,
      n.id = r.source → n.kind ≠ .value → r.target.length < r.source.length) ∧
    (∀ rs, (run {} (stepsOf tasks)).graph.Cycle rs → ∃ r ∈ rs, ∃ text g,
      Task.merge r.source text ∈ tasks ∧ Graph.ofText r.source text = .ok g ∧
        g.root = some r.target) ∧
    ∀ n ∈ (run {} (stepsOf tasks)).nodes, n.kind ≠ .value →
      ∃ leaves, leaves ≠ [] ∧ (∀ l ∈ leaves, ⟨l, .value⟩ ∈ (run {} (stepsOf tasks)).nodes) ∧
        ∀ leaves', (run {} (stepsOf tasks)).graph.Unfolds n.id leaves' ↔ leaves' = leaves := by
  refine ⟨fun r hr n hn => length_target_lt_run hbound howners hr hn, fun rs hrs => ?_,
    fun n hn hkind => ?_⟩
  · -- The relation that does not lead to a shorter id leaves from an owner.
    obtain ⟨r, hr, hlonger⟩ := hrs.exists_not_shorter
    obtain ⟨owner, text, g, htask, hg, hmem⟩ := mem_relations_run.1 (hrs.stored r hr)
    rcases Graph.relation_cases hg hmem with ⟨rfl, hroot⟩ | ⟨-, hlt⟩
    · exact ⟨r, hr, text, g, htask, hg, hroot⟩
    · exact absurd hlt hlonger
  · obtain ⟨leaves, hleaves⟩ :=
      Graph.exists_unfolds (wellFounded_feeds_run hbound howners) n.id
    refine ⟨leaves, hleaves.ne_nil fun id op => targets_ne_nil_run, fun l hl => ?_,
      fun leaves' => ?_⟩
    · obtain ⟨hmem, hnone⟩ := hleaves.mem_leaves (List.mem_map_of_mem hn)
        (fun r hr => target_mem_run hbound hr) hl
      exact Graph.mem_of_connective?_eq_none (nodup_ids_run tasks) hmem hnone
    · constructor
      · exact fun h => h.unique hleaves
      · rintro rfl
        exact hleaves

/-- The tree of `M#1&A`, where `M#1` is marked as a course. -/
def selfNeedTree : Derivation :=
  .chain .or
    (.chain .and (.leaf ⟨"M#1", true, false, false, false, ""⟩) [.leaf (.bare "A")]) []

/-- It is derived. -/
theorem derives_selfNeedTree :
    Derives .expression (tokens "M#1{tfff}&A{ffff}") [selfNeedTree] :=
  .lone (@Derives.chain .and [⟨.requisite, "M#1{tfff}", 0⟩] _ _ _ (.leaf rfl rfl)
    (@Derives.more .and ⟨.and, "&", 9⟩ [⟨.requisite, "A{ffff}", 10⟩] _ _ _ rfl (.leaf rfl rfl)
      .none))

/-- The course `M 1` with the text of its requisites. -/
def tasksOf (text : String) : List Task :=
  [.bind { subject := "M", catalog := "1" }, .merge "M#1" text]

/-- Neither the course nor the owner of the text is a chain. -/
theorem plainStart_tasksOf (text : String) :
    (∀ c, Task.bind c ∈ tasksOf text → PlainStart c.nodeId) ∧
      ∀ owner text', Task.merge owner text' ∈ tasksOf text → PlainStart owner := by
  have hplain : PlainStart "M#1" := by simp [PlainStart, structural?]
  constructor
  · intro c hc
    obtain rfl : c = { subject := "M", catalog := "1" } := by simpa [tasksOf] using hc
    exact hplain
  · intro owner text' h
    obtain ⟨rfl, -⟩ : owner = "M#1" ∧ text' = text := by simpa [tasksOf] using h
    exact hplain

/-- The course `M 1`, which needs itself and `A`. -/
def selfNeed : List Task :=
  tasksOf "M#1{tfff}&A{ffff}"

/-- The relations from `M 1` to its conjunction and back are a cycle, which passes through `M 1`,
and the conjunction unfolds. -/
theorem descends_run_selfNeed :
    (∀ c, Task.bind c ∈ selfNeed → PlainStart c.nodeId) ∧
      (∀ owner text, Task.merge owner text ∈ selfNeed → PlainStart owner) ∧
      (∃ rs, (run {} (stepsOf selfNeed)).graph.Cycle rs ∧ ∃ r ∈ rs, ∃ text,
        Task.merge r.source text ∈ selfNeed) ∧
      ∃ leaves, (run {} (stepsOf selfNeed)).graph.Unfolds "&M#1A" leaves ∧ leaves ≠ [] := by
  have hbound : ∀ c, Task.bind c ∈ selfNeed → PlainStart c.nodeId := (plainStart_tasksOf _).1
  have howners : ∀ owner text, Task.merge owner text ∈ selfNeed → PlainStart owner :=
    (plainStart_tasksOf _).2
  have hmerge : Task.merge "M#1" "M#1{tfff}&A{ffff}" ∈ selfNeed :=
    List.mem_cons_of_mem _ List.mem_cons_self
  obtain ⟨g, hg, hread⟩ := derives_selfNeedTree.exists_reading "M#1"
  have hnode : ⟨"&M#1A", .and⟩ ∈ (run {} (stepsOf selfNeed)).nodes :=
    mem_nodes_run hbound hmerge hg ((hread.nodes _).2 (.inr ⟨_, List.mem_cons_self, rfl⟩))
  have hforth : { source := "M#1", target := "&M#1A" } ∈ (run {} (stepsOf selfNeed)).relations :=
    mem_relations_run.2 ⟨_, _, g, hmerge, hg, (hread.relations _).2 (.inl rfl)⟩
  have hback : ⟨"&M#1A", "M#1", some false, some false, some false, some ""⟩ ∈
      (run {} (stepsOf selfNeed)).relations :=
    mem_relations_run.2 ⟨_, _, g, hmerge, hg,
      (hread.relations _).2 (.inr ⟨_, List.mem_cons_self, _, List.mem_cons_self, rfl⟩)⟩
  have hcycle : (run {} (stepsOf selfNeed)).graph.Cycle
      [{ source := "M#1", target := "&M#1A" },
        ⟨"&M#1A", "M#1", some false, some false, some false, some ""⟩] :=
    ⟨by simp, by simpa [graph] using ⟨hforth, hback⟩, by simp, by simp⟩
  obtain ⟨-, hcycles, hunfolds⟩ := descends_run hbound howners
  obtain ⟨r, hr, text, -, htask, -⟩ := hcycles _ hcycle
  obtain ⟨leaves, hne, -, hleaves⟩ := hunfolds _ hnode (by simp)
  exact ⟨hbound, howners, ⟨_, hcycle, r, hr, text, htask⟩, leaves, (hleaves leaves).2 rfl, hne⟩

end Accumulator

end Requisite
