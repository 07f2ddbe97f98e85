import Requisite.Proofs.Workers.Order

/-!
# Ids show the kinds of nodes

Nodes are known by their ids alone, and of two that arrive with one id the first stays, whatever the
kind of the second. That would lose something if a leaf could have the id of a chain. It cannot: the
id of a leaf is free text, but begins with no bracket and no connective, and that of a chain begins
with its connective, or with a bracket and the connective (`Connective.Opens`). So every node that a
task brings has the kind that its id shows, and a run over any tasks finds no two kinds for one id
(`kind_iff_opens_run`).
-/

namespace Requisite

/-! ## Reading a kind off an id -/

/-- The id begins with the connective, or with a bracket and the connective. -/
def Connective.Opens (op : Connective) (id : String) : Prop :=
  [op.symbol] <+: id.toList ∨ ['(', op.symbol] <+: id.toList

/-- The id shows the kind of a chain exactly when the connective of the chain opens it. -/
theorem NodeKind.ofId_eq_kind_iff {op : Connective} {id : String} :
    NodeKind.ofId id = op.kind ↔ op.Opens id := by
  unfold NodeKind.ofId Connective.Opens
  simp only [List.cons_prefix_iff, List.nil_prefix, and_true]
  split <;> cases op <;> simp_all [Connective.kind, Connective.symbol]

/-- It shows the kind of a single requirement exactly when no connective opens it. -/
theorem NodeKind.ofId_eq_value_iff {id : String} :
    NodeKind.ofId id = .value ↔ ∀ op : Connective, ¬ op.Opens id := by
  constructor
  · intro hvalue op hopens
    rw [← NodeKind.ofId_eq_kind_iff, hvalue] at hopens
    cases op <;> contradiction
  · intro hnone
    have hkind (op : Connective) : NodeKind.ofId id ≠ op.kind :=
      mt NodeKind.ofId_eq_kind_iff.1 (hnone op)
    cases h : NodeKind.ofId id with
    | value => rfl
    | and => exact absurd h (hkind .and)
    | or => exact absurd h (hkind .or)

namespace Accumulator

/-! ## Nodes whose ids show their kinds -/

/-- Every node has the kind that its id shows. -/
def KindsShown (ns : List Node) : Prop :=
  ∀ n ∈ ns, n.kind = NodeKind.ofId n.id

/-- Nodes that arrive beside others are shown if all of them are. -/
theorem KindsShown.addAll {ns ms : List Node} (hns : KindsShown ns) (hms : KindsShown ms) :
    KindsShown (addAll Node.id ns ms) := by
  intro n hn
  exact (mem_of_mem_addAll hn).elim (hns n) (hms n)

/-- Nodes that are shown and arrive at others that are meet no other kind for their ids. -/
theorem conflicts_eq_nil {known ns : List Node} (hknown : KindsShown known)
    (hns : KindsShown ns) : conflicts known ns = [] := by
  induction ns generalizing known with
  | nil => rfl
  | cons n ns ih =>
    obtain ⟨hn, hns⟩ := List.forall_mem_cons.1 hns
    have hnone : conflict? known n = none := by
      unfold conflict?
      split
      next m hfind =>
        -- Both nodes have the kind that their common id shows.
        have hid : m.id = n.id := by simpa using List.find?_some hfind
        rw [if_pos]
        rw [hknown m (List.mem_of_find?_eq_some hfind), hid, hn]
      next => rfl
    have hone : KindsShown [n] := List.forall_mem_singleton.2 hn
    have hadded : KindsShown (addNew Node.id known n) := hknown.addAll hone
    rw [conflicts, hnone, ih hadded hns]
    rfl

/-- Steps that bring only such nodes report nothing. -/
theorem notices_eq_nil {acc : Accumulator} {steps : List Step} (hacc : KindsShown acc.nodes)
    (hsteps : KindsShown (steps.flatMap Step.nodesOf)) : acc.notices steps = [] := by
  induction steps generalizing acc with
  | nil => rfl
  | cons step steps ih =>
    rw [List.flatMap_cons] at hsteps
    obtain ⟨hstep, hsteps⟩ := List.forall_mem_append.1 hsteps
    have hreport : acc.stepNotices step = [] := by
      cases step with
      | nodes ns => exact conflicts_eq_nil hacc hstep
      | courses cs => rfl
      | relations rs => rfl
    have hafter : KindsShown (acc.apply step).nodes := by
      cases step with
      | nodes ns => exact hacc.addAll hstep
      | courses cs => exact hacc
      | relations rs => exact hacc
    rw [notices, hreport, ih hafter hsteps]
    rfl

/-! ## What tasks bring -/

/-- What the steps of tasks bring is brought by one of the tasks. -/
theorem mem_flatMap_stepsOf {tasks : List Task} {α : Type} {brought : Step → List α} {x : α} :
    x ∈ (stepsOf tasks).flatMap brought ↔ ∃ task ∈ tasks, x ∈ task.steps.flatMap brought := by
  rw [stepsOf, List.flatMap_assoc, List.mem_flatMap]

/-- The nodes that tasks bring are shown, if the nodes of the courses that they bind begin with no
bracket and no connective. -/
theorem kindsShown_stepsOf {tasks : List Task}
    (h : ∀ c, Task.bind c ∈ tasks → PlainStart c.nodeId) :
    KindsShown ((stepsOf tasks).flatMap Step.nodesOf) := by
  intro n hn
  obtain ⟨task, htask, hn⟩ := mem_flatMap_stepsOf.1 hn
  exact Task.kind_eq_ofId (fun c hc => h c (hc ▸ htask)) hn

/-- So are the nodes after a run over the tasks. -/
theorem kindsShown_run {tasks : List Task}
    (h : ∀ c, Task.bind c ∈ tasks → PlainStart c.nodeId) :
    KindsShown (run {} (stepsOf tasks)).nodes := by
  have hempty : KindsShown [] := by simp [KindsShown]
  rw [nodes_run]
  exact hempty.addAll (kindsShown_stepsOf h)

/-- A node of an accepted text that is merged is there after the run. -/
theorem mem_nodes_run {tasks : List Task} (h : ∀ c, Task.bind c ∈ tasks → PlainStart c.nodeId)
    {owner text : String} {g : Graph} (htask : Task.merge owner text ∈ tasks)
    (hg : Graph.ofText owner text = .ok g) {n : Node} (hn : n ∈ g.nodes) :
    n ∈ (run {} (stepsOf tasks)).nodes := by
  have hbrought : n ∈ (stepsOf tasks).flatMap Step.nodesOf := by
    refine mem_flatMap_stepsOf.2 ⟨_, htask, ?_⟩
    rwa [Task.steps, hg, flatMap_nodesOf_mergeSteps]
  -- The node that has the id after the run may be an earlier one, but it has the same kind.
  obtain ⟨m, hm, hid⟩ : ∃ m ∈ (run {} (stepsOf tasks)).nodes, m.id = n.id := by
    rw [← List.mem_map, nodes_run, mem_map_addAll]
    exact .inr (List.mem_map_of_mem hbrought)
  have hkind : m.kind = n.kind := by
    rw [kindsShown_run h m hm, kindsShown_stepsOf h n hbrought, hid]
  obtain ⟨id, kind⟩ := m
  obtain rfl : id = n.id := hid
  obtain rfl : kind = n.kind := hkind
  exact hm

/-! ## A run over tasks -/

/-- After a run over any tasks the kind of a node is a matter of its id: a conjunction or
disjunction if its connective opens the id, and else a single requirement. No two nodes that arrive
contradict each other, so nothing is reported, and every leaf has its own node. -/
theorem kind_iff_opens_run {tasks : List Task}
    (h : ∀ c, Task.bind c ∈ tasks → PlainStart c.nodeId) :
    (∀ n ∈ (run {} (stepsOf tasks)).nodes,
      (n.kind = .and ↔ Connective.and.Opens n.id) ∧ (n.kind = .or ↔ Connective.or.Opens n.id) ∧
        (n.kind = .value ↔ ¬ Connective.and.Opens n.id ∧ ¬ Connective.or.Opens n.id)) ∧
    (∀ n ∈ (stepsOf tasks).flatMap Step.nodesOf, ∀ m ∈ (stepsOf tasks).flatMap Step.nodesOf,
      n.id = m.id → n.kind = m.kind) ∧
    notices {} (stepsOf tasks) = [] ∧
    ∀ owner text d, Task.merge owner text ∈ tasks → DerivesAll (tokenize text) d →
      ∀ l ∈ d.leaves, ⟨l.id, .value⟩ ∈ (run {} (stepsOf tasks)).nodes ∧
        ∀ n ∈ (run {} (stepsOf tasks)).nodes, n.id = l.id → n.kind = .value := by
  have hbrought := kindsShown_stepsOf h
  have hshown := kindsShown_run h
  refine ⟨fun n hn => ?_, fun n hn m hm hid => ?_, ?_, fun owner text d htask hd l hl => ⟨?_, ?_⟩⟩
  · rw [hshown n hn]
    refine ⟨@NodeKind.ofId_eq_kind_iff .and _, @NodeKind.ofId_eq_kind_iff .or _, ?_⟩
    rw [NodeKind.ofId_eq_value_iff]
    exact ⟨fun hnone => ⟨hnone .and, hnone .or⟩, fun hnone op => op.rec hnone.1 hnone.2⟩
  · rw [hbrought n hn, hbrought m hm, hid]
  · exact notices_eq_nil (by simp [KindsShown]) hbrought
  · -- A leaf is a node of the graph of its text, whoever the owner is.
    obtain ⟨g, hg, hread⟩ := (derivesAll_tokenize.1 hd).exists_reading owner
    exact mem_nodes_run h htask hg ((hread.nodes _).2 (.inl ⟨l, hl, rfl⟩))
  · intro n hn hid
    have hplain : l.StartsPlain := (derivesAll_tokenize.1 hd).startsPlain hl
    rw [hshown n hn, hid]
    exact NodeKind.ofId_of_plainStart hplain.plainStart

/-- The course `M 1`, and the text `(A&B)|A` for an owner whose id looks like that of a chain. -/
def nestedTasks : List Task :=
  [.bind { subject := "M", catalog := "1" }, .merge "&AB" "(A{ffff}&B{ffff})|A{ffff}"]

/-- Nothing is reported although the owner has the id that `A&B` has without its brackets. The node
of the conjunction is opened by its connective, and `A` by none. -/
theorem kind_iff_opens_run_nested :
    (∀ c, Task.bind c ∈ nestedTasks → PlainStart c.nodeId) ∧
      notices {} (stepsOf nestedTasks) = [] ∧
      ⟨"(&AB)", .and⟩ ∈ (run {} (stepsOf nestedTasks)).nodes ∧ Connective.and.Opens "(&AB)" ∧
      ⟨"A", .value⟩ ∈ (run {} (stepsOf nestedTasks)).nodes ∧
      ¬ Connective.and.Opens "A" ∧ ¬ Connective.or.Opens "A" := by
  have hplain : ∀ c, Task.bind c ∈ nestedTasks → PlainStart c.nodeId := by
    intro c hc
    obtain rfl : c = { subject := "M", catalog := "1" } := by simpa [nestedTasks] using hc
    exact plainStart_courseNodeId (by simp [PlainStart, structural?]) "1"
  have hmerge : Task.merge "&AB" "(A{ffff}&B{ffff})|A{ffff}" ∈ nestedTasks :=
    List.mem_cons_of_mem _ List.mem_cons_self
  obtain ⟨g, hg, hread⟩ :=
    (derivesAll_tokenize.1 Derivation.derivesAll_nested).exists_reading "&AB"
  have hand : ⟨"(&AB)", .and⟩ ∈ (run {} (stepsOf nestedTasks)).nodes :=
    mem_nodes_run hplain hmerge hg
      ((hread.nodes _).2 (.inr ⟨_, List.mem_cons_of_mem _ List.mem_cons_self, rfl⟩))
  obtain ⟨hkinds, -, hnotices, hleaves⟩ := kind_iff_opens_run hplain
  have hleaf : ⟨"A", .value⟩ ∈ (run {} (stepsOf nestedTasks)).nodes :=
    (hleaves _ _ _ hmerge Derivation.derivesAll_nested (.bare "A") List.mem_cons_self).1
  exact ⟨hplain, hnotices, hand, (hkinds _ hand).1.1 rfl, hleaf, (hkinds _ hleaf).2.2.1 rfl⟩

end Accumulator

end Requisite
