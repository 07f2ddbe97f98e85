import Mathlib.Data.List.Nodup
import Requisite.Graph

/-!
# Evaluating a graph

A graph says which requirements have to be met, all or any of them at every node. `Graph.eval` is
the value of a node under a truth assignment to the single requirements. The value of a node is
computed from the values of its targets, so the relation `Graph.Feeds` between them has to be well
founded; `Graph.eval_of_connective` and `Graph.eval_of_value` are then the equations of the
evaluation.
-/

namespace Requisite

/-- All or any of the values hold. -/
def Connective.holds : Connective → List Bool → Bool
  | .and, values => values.all id
  | .or, values => values.any id

/-- One value alone holds or not by itself. -/
@[simp] theorem Connective.holds_singleton (op : Connective) (value : Bool) :
    op.holds [value] = value := by
  cases op <;> simp [holds]

/-- Neither order nor repetition matters to what holds. -/
theorem Connective.holds_congr (op : Connective) {values values' : List Bool}
    (h : ∀ value, value ∈ values ↔ value ∈ values') : op.holds values = op.holds values' := by
  cases op with
  | and =>
    rw [Bool.eq_iff_iff, holds, holds, List.all_eq_true, List.all_eq_true]
    exact forall_congr' fun value => imp_congr_left (h value)
  | or =>
    rw [Bool.eq_iff_iff, holds, holds, List.any_eq_true, List.any_eq_true]
    exact exists_congr fun value => and_congr_left' (h value)

/-- The connective of a kind of node, if it has one. -/
def NodeKind.connective? : NodeKind → Option Connective
  | .value => none
  | .and => some .and
  | .or => some .or

/-- The kind of a chain has its connective. -/
@[simp] theorem NodeKind.connective?_kind (op : Connective) : op.kind.connective? = some op := by
  cases op <;> rfl

namespace Graph

/-- The connective of the node with the id, if there is such a node and it has one. -/
def connective? (g : Graph) (id : String) : Option Connective :=
  (g.nodes.find? fun n => n.id = id).bind fun n => n.kind.connective?

/-- The targets of the relations from a node. -/
def targets (g : Graph) (id : String) : List String :=
  (g.relations.filter fun r => r.source = id).map Relation.target

/-- The value of `parent` is computed from the value of `child`. -/
def Feeds (g : Graph) (child parent : String) : Prop :=
  (∃ op, g.connective? parent = some op) ∧ child ∈ g.targets parent

/-- The value of a node under the truth assignment `σ`: all or any of the values of its targets,
where it has a connective, and else the assigned one. -/
noncomputable def eval (g : Graph) (wf : WellFounded g.Feeds) (σ : String → Bool) : String → Bool :=
  wf.fix fun id value =>
    match h : g.connective? id with
    | some op => op.holds ((g.targets id).attach.map fun t => value t.1 ⟨⟨op, h⟩, t.2⟩)
    | none => σ id

section

variable {g : Graph} {wf : WellFounded g.Feeds} {σ : String → Bool} {id : String}

/-- The value of a node with a connective is that of its targets, joined. -/
theorem eval_of_connective {op : Connective} (h : g.connective? id = some op) :
    g.eval wf σ id = op.holds ((g.targets id).map (g.eval wf σ)) := by
  rw [eval, WellFounded.fix_eq]
  split
  next op' h' =>
    obtain rfl : op = op' := Option.some.inj (h.symm.trans h')
    exact congrArg op.holds List.attach_map_val
  next h' =>
    rw [h] at h'
    contradiction

/-- The value of a single requirement is the assigned one. -/
theorem eval_of_value (h : g.connective? id = none) : g.eval wf σ id = σ id := by
  rw [eval, WellFounded.fix_eq]
  split
  next op h' =>
    rw [h] at h'
    contradiction
  next => rfl

/-- Where ids are not used twice, a node of the graph is found by its id. -/
theorem connective?_of_mem (hg : (g.nodes.map Node.id).Nodup) {n : Node} (hn : n ∈ g.nodes) :
    g.connective? n.id = n.kind.connective? := by
  have hsome : (g.nodes.find? fun n' => n'.id = n.id).isSome :=
    List.find?_isSome.2 ⟨n, hn, decide_eq_true rfl⟩
  obtain ⟨n', hfind⟩ := Option.isSome_iff_exists.1 hsome
  have hid : n'.id = n.id := by simpa using List.find?_some hfind
  obtain rfl : n' = n :=
    List.inj_on_of_nodup_map hg (List.mem_of_find?_eq_some hfind) hn hid
  rw [connective?, hfind, Option.bind_some]

/-- A node with a connective is a node of the graph. -/
theorem exists_mem_of_connective? {op : Connective} (h : g.connective? id = some op) :
    ∃ n ∈ g.nodes, n.id = id ∧ n.kind.connective? = some op := by
  obtain ⟨n, hfind, hkind⟩ := Option.bind_eq_some_iff.1 h
  exact ⟨n, List.mem_of_find?_eq_some hfind, by simpa using List.find?_some hfind, hkind⟩

/-- The targets of a node are where its relations lead. -/
theorem mem_targets {t : String} :
    t ∈ g.targets id ↔ ∃ r ∈ g.relations, r.source = id ∧ r.target = t := by
  simp [targets, and_assoc]

end

end Graph

end Requisite
