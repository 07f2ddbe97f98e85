import Requisite.Proofs.Runs.Unfolding

/-!
# Attributes sit on the relations into leaves

The attributes of a relation are those of the leaf at its target. They pass from a leaf through any
number of brackets and of chains of one member (`Derivation.IsLeaf`), but not through a chain of two
or more: the node of a member is that of a leaf, whose flags it has, or that of a chain, and it has
none (`Derivation.isLeaf_or_exists_chain`).

In a run, where the relations of many texts are put together, nodes are known by their ids alone.
The ids show the kinds, so each relation still has the attributes that the nodes at its ends call
for, and no leaf's are lost or given to another (`Accumulator.attributes_run`).
-/

namespace Requisite

/-- The relation has all four attributes. -/
structure Relation.Attributed (r : Relation) : Prop where
  enforced : r.enforced ≠ none
  prereq : r.prereq ≠ none
  coreq : r.coreq ≠ none
  minimumGrade : r.minimumGrade ≠ none

/-- The relation has none of the four. -/
structure Relation.Unattributed (r : Relation) : Prop where
  enforced : r.enforced = none
  prereq : r.prereq = none
  coreq : r.coreq = none
  minimumGrade : r.minimumGrade = none

namespace Relation

/-- The edge from `source` to `target` with flags has all attributes. -/
theorem attributed_between_some (source target : String) (flags : Flags) :
    (between source target (some flags)).Attributed := by
  constructor <;> exact Option.some_ne_none _

/-- Without flags it has none. -/
theorem unattributed_between_none (source target : String) :
    (between source target none).Unattributed := by
  constructor <;> rfl

/-- No relation has all attributes and none. -/
theorem Unattributed.not_attributed {r : Relation} (h : r.Unattributed) : ¬ r.Attributed :=
  fun hall => hall.enforced h.enforced

end Relation

namespace Derivation

/-! ## Leaves in brackets -/

/-- The tree is the leaf `l`, in any number of brackets. -/
inductive IsLeaf (l : Leaf) : Derivation → Prop where
  /-- A leaf is itself. -/
  | leaf : IsLeaf l (.leaf l)
  /-- Brackets around it change nothing. -/
  | group {content : Derivation} (inner : IsLeaf l content) : IsLeaf l (.group content)
  /-- Nor do chains of one member. -/
  | lone {op : Connective} {head : Derivation} (inner : IsLeaf l head) :
      IsLeaf l (.chain op head [])

section

variable {l : Leaf} {d : Derivation}

/-- A leaf in brackets is no chain. -/
theorem IsLeaf.isChain (h : d.IsLeaf l) : d.isChain = false := by
  induction h with
  | leaf => rfl
  | group inner ih => rfl
  | lone inner ih => rwa [Derivation.isChain]

/-- Its node is that of the leaf. -/
theorem IsLeaf.nid (h : d.IsLeaf l) : d.nid = l.id := by
  induction h with
  | leaf => rfl
  | group inner ih =>
    rw [Derivation.nid, inner.isChain]
    exact ih
  | lone inner ih => rwa [Derivation.nid]

/-- Its flags are those of the leaf. -/
theorem IsLeaf.flags (h : d.IsLeaf l) : d.flags = some l.flags := by
  induction h with
  | leaf => rfl
  | group inner ih => rwa [Derivation.flags]
  | lone inner ih => rwa [Derivation.flags]

end

/-- A tree is one of its leaves, in any number of brackets, or it has no flags and its node is that
of a chain. -/
theorem isLeaf_or_exists_chain (d : Derivation) (bracketed : Bool) :
    (∃ l ∈ d.leaves, d.IsLeaf l) ∨
      d.flags = none ∧ ∃ c ∈ d.chains bracketed, c.id = d.idAt bracketed := by
  induction d using loneInduct generalizing bracketed with
  | leaf l => exact .inl ⟨l, by simp [leaves], .leaf⟩
  | group content ih =>
    -- The brackets are passed on to the content, so it stands directly in some.
    rw [leaves, flags, chains, idAt_group]
    rcases ih true with ⟨l, hl, hleaf⟩ | hchain
    · exact .inl ⟨l, hl, hleaf.group⟩
    · exact .inr hchain
  | lone op head ih =>
    rw [leaves_chain, List.flatMap_singleton, flags, chains, idAt_lone]
    rcases ih bracketed with ⟨l, hl, hleaf⟩ | hchain
    · exact .inl ⟨l, hl, hleaf.lone⟩
    · exact .inr hchain
  | chain op head m tail ih =>
    rw [flags, chains_chain, idAt_chain]
    exact .inr ⟨rfl, _, List.mem_cons_self, rfl⟩

/-- The leaves of a member of a chain are leaves of the tree. -/
theorem mem_leaves_of_mem_members {d m : Derivation} {bracketed : Bool} {c : Occurrence}
    (hc : c ∈ d.chains bracketed) (hm : m ∈ c.members) {l : Leaf} (hl : l ∈ m.leaves) :
    l ∈ d.leaves := by
  refine chains_induct (motive := fun _ d => l ∈ d.leaves) ?_ ?_ ?_ ?_ hc
  · intro _ content h
    rwa [leaves]
  · intro _ op head h
    rwa [leaves_chain, List.flatMap_singleton]
  · intro _ op head second tail hmembers
    rw [hmembers] at hm
    rw [leaves_chain]
    exact List.mem_flatMap.2 ⟨m, hm, hl⟩
  · intro _ op head second tail d hd h
    rw [leaves_chain]
    exact List.mem_flatMap.2 ⟨d, hd, h⟩

end Derivation

/-! ## One text -/

namespace Reading

variable {owner : String} {d : Derivation} {g : Graph}

/-- A relation is that from the owner to the root, or it leads from a chain to a leaf and has the
flags of the leaf, or it leads from a chain to a chain without flags. -/
theorem member_cases (h : Reading owner d g) {r : Relation} (hr : r ∈ g.relations) :
    r = { source := owner, target := d.nid } ∨
      (∃ c ∈ d.chains false, ∃ m ∈ c.members, ∃ l ∈ d.leaves,
        m.IsLeaf l ∧ r = .between c.id l.id (some l.flags)) ∨
      ∃ c ∈ d.chains false, ∃ target,
        NodeKind.ofId target ≠ .value ∧ r = .between c.id target none := by
  rcases (h.relations r).1 hr with rfl | ⟨c, hc, m, hm, rfl⟩
  · exact .inl rfl
  · rcases m.isLeaf_or_exists_chain false with ⟨l, hl, hleaf⟩ | ⟨hflags, c', hc', hid⟩
    · have hmem : l ∈ d.leaves := Derivation.mem_leaves_of_mem_members hc hm hl
      exact .inr (.inl ⟨c, hc, m, hm, l, hmem, hleaf, by rw [hleaf.nid, hleaf.flags]⟩)
    · have hkind : NodeKind.ofId m.nid ≠ .value := by
        have hnid : c'.id = m.nid := hid
        rw [← hnid]
        exact ofId_ne_value hc'
      exact .inr (.inr ⟨c, hc, m.nid, hkind, by rw [hflags]⟩)

/-- The relations with attributes are those from the chains to their members that are leaves. -/
theorem mem_and_attributed_iff (h : Reading owner d g) {r : Relation} :
    r ∈ g.relations ∧ r.Attributed ↔ ∃ c ∈ d.chains false, ∃ m ∈ c.members, ∃ l,
      m.IsLeaf l ∧ r = .between c.id l.id (some l.flags) := by
  constructor
  · rintro ⟨hr, hall⟩
    rcases h.member_cases hr with rfl | ⟨c, hc, m, hm, l, -, hleaf, rfl⟩ | ⟨c, -, target, -, rfl⟩
    · exact absurd hall (Relation.unattributed_between_none _ _).not_attributed
    · exact ⟨c, hc, m, hm, l, hleaf, rfl⟩
    · exact absurd hall (Relation.unattributed_between_none _ _).not_attributed
  · rintro ⟨c, hc, m, hm, l, hleaf, rfl⟩
    have hstored := h.relation_to_member hc hm
    rw [hleaf.nid, hleaf.flags] at hstored
    exact ⟨hstored, Relation.attributed_between_some _ _ _⟩

end Reading

/-! ## A run over tasks -/

/-- The relation has the attributes that the nodes at its ends call for, if these are among `ns`. -/
structure Relation.FitsEnds (ns : List Node) (r : Relation) : Prop where
  /-- It leads to a node. -/
  target : r.target ∈ ns.map Node.id
  /-- From a chain to a single requirement it has all attributes. -/
  toLeaf : ∀ n ∈ ns, n.id = r.source → n.kind ≠ .value →
    ∀ m ∈ ns, m.id = r.target → m.kind = .value → r.Attributed
  /-- From a chain to a chain it has none. -/
  toChain : ∀ n ∈ ns, n.id = r.source → n.kind ≠ .value →
    ∀ m ∈ ns, m.id = r.target → m.kind ≠ .value → r.Unattributed
  /-- From a single requirement it has none. -/
  ofLeaf : ∀ n ∈ ns, n.id = r.source → n.kind = .value → r.Unattributed

namespace Accumulator

variable {tasks : List Task}

/-- A relation of a run is one of a graph that is read off the tree of a merged text. -/
theorem exists_reading_of_mem_run {r : Relation} (hr : r ∈ (run {} (stepsOf tasks)).relations) :
    ∃ owner text d g, Task.merge owner text ∈ tasks ∧ Derives .expression (tokens text) [d] ∧
      Reading owner d g ∧ r ∈ g.relations := by
  obtain ⟨owner, text, g, htask, hg, hr⟩ := mem_relations_run.1 hr
  rcases Graph.eq_empty_or_exists_reading hg with rfl | ⟨d, hd, hread⟩
  · simp at hr
  · exact ⟨owner, text, d, g, htask, hd, hread, hr⟩

/-- A relation of a run is from an owner and has no attributes, or it is from a chain, and has all
attributes if it leads to a leaf and none if it leads to a chain. -/
theorem attributes_cases_run {r : Relation} (hr : r ∈ (run {} (stepsOf tasks)).relations) :
    (∃ text, Task.merge r.source text ∈ tasks) ∧ r.Unattributed ∨
      NodeKind.ofId r.source ≠ .value ∧
        (NodeKind.ofId r.target = .value ∧ r.Attributed ∨
          NodeKind.ofId r.target ≠ .value ∧ r.Unattributed) := by
  obtain ⟨owner, text, d, g, htask, hd, hread, hr⟩ := exists_reading_of_mem_run hr
  rcases hread.member_cases hr with
    rfl | ⟨c, hc, m, hm, l, hl, hleaf, rfl⟩ | ⟨c, hc, target, hkind, rfl⟩
  · exact .inl ⟨⟨text, htask⟩, Relation.unattributed_between_none _ _⟩
  · have hplain : PlainStart l.id := (hd.startsPlain hl).plainStart
    rw [Relation.source_between, Relation.target_between]
    exact .inr ⟨Reading.ofId_ne_value hc, .inl ⟨NodeKind.ofId_of_plainStart hplain,
      Relation.attributed_between_some _ _ _⟩⟩
  · rw [Relation.source_between, Relation.target_between]
    exact .inr ⟨Reading.ofId_ne_value hc, .inr ⟨hkind, Relation.unattributed_between_none _ _⟩⟩

/-- Where courses and owners are no chains, every relation of a run has the attributes that its ends
call for. -/
theorem fitsEnds_run (hbound : ∀ c, Task.bind c ∈ tasks → PlainStart c.nodeId)
    (howners : ∀ owner text, Task.merge owner text ∈ tasks → PlainStart owner) {r : Relation}
    (hr : r ∈ (run {} (stepsOf tasks)).relations) : r.FitsEnds (run {} (stepsOf tasks)).nodes := by
  have hcases := attributes_cases_run hr
  have howner (h : ∃ text, Task.merge r.source text ∈ tasks) : NodeKind.ofId r.source = .value := by
    obtain ⟨text, htask⟩ := h
    exact NodeKind.ofId_of_plainStart (howners _ _ htask)
  -- The kind of a node is a matter of its id, also where several texts have the node.
  have hkind {id : String} {n : Node} (hn : n ∈ (run {} (stepsOf tasks)).nodes) (hid : n.id = id) :
      n.kind = NodeKind.ofId id := by
    rw [kindsShown_run hbound n hn, hid]
  constructor
  · exact target_mem_run hbound hr
  · intro n hn hsource hchain m hm htarget hleaf
    rw [hkind hn hsource] at hchain
    rw [hkind hm htarget] at hleaf
    rcases hcases with ⟨hfrom, -⟩ | ⟨-, ⟨-, hall⟩ | ⟨hne, -⟩⟩
    · exact absurd (howner hfrom) hchain
    · exact hall
    · exact absurd hleaf hne
  · intro n hn hsource hchain m hm htarget hother
    rw [hkind hn hsource] at hchain
    rw [hkind hm htarget] at hother
    rcases hcases with ⟨-, hnone⟩ | ⟨-, ⟨hvalue, -⟩ | ⟨-, hnone⟩⟩
    · exact hnone
    · exact absurd hvalue hother
    · exact hnone
  · intro n hn hsource hleaf
    rw [hkind hn hsource] at hleaf
    rcases hcases with ⟨-, hnone⟩ | ⟨hne, -⟩
    · exact hnone
    · exact absurd hleaf hne

/-- The relations of a run with attributes are those from the chains of the texts that it merges to
their members that are leaves, with the flags of the leaves. -/
theorem mem_and_attributed_run_iff {r : Relation} :
    r ∈ (run {} (stepsOf tasks)).relations ∧ r.Attributed ↔
      ∃ owner text d, Task.merge owner text ∈ tasks ∧ DerivesAll (tokenize text) d ∧
        ∃ c ∈ d.chains false, ∃ m ∈ c.members, ∃ l, m.IsLeaf l ∧
          r = .between c.id l.id (some l.flags) := by
  constructor
  · rintro ⟨hr, hall⟩
    obtain ⟨owner, text, d, g, htask, hd, hread, hr⟩ := exists_reading_of_mem_run hr
    exact ⟨owner, text, d, htask, derivesAll_tokenize.2 hd,
      hread.mem_and_attributed_iff.1 ⟨hr, hall⟩⟩
  · rintro ⟨owner, text, d, htask, hd, hleaf⟩
    obtain ⟨g, hg, hread⟩ := (derivesAll_tokenize.1 hd).exists_reading owner
    obtain ⟨hr, hall⟩ := hread.mem_and_attributed_iff.2 hleaf
    exact ⟨mem_relations_run.2 ⟨owner, text, g, htask, hg, hr⟩, hall⟩

/-- After a run over any tasks, whose courses and owners are no chains, attributes sit exactly on
the relations into leaves: all four on those from chains to single requirements, and none on the
others. The relations that have them are the ones from the chains of the merged texts to their
members that are leaves, in any number of brackets, each with what the leaf says. -/
theorem attributes_run (hbound : ∀ c, Task.bind c ∈ tasks → PlainStart c.nodeId)
    (howners : ∀ owner text, Task.merge owner text ∈ tasks → PlainStart owner) :
    (∀ r ∈ (run {} (stepsOf tasks)).relations, r.FitsEnds (run {} (stepsOf tasks)).nodes) ∧
      ∀ r, r ∈ (run {} (stepsOf tasks)).relations ∧ r.Attributed ↔
        ∃ owner text d, Task.merge owner text ∈ tasks ∧ DerivesAll (tokenize text) d ∧
          ∃ c ∈ d.chains false, ∃ m ∈ c.members, ∃ l, m.IsLeaf l ∧
            r = { source := c.id, target := l.id,
                  enforced := some l.flags.isEnforced, prereq := some l.flags.isPrereq,
                  coreq := some l.flags.isCoreq, minimumGrade := some l.flags.minimumGrade } := by
  constructor
  · intro r hr
    exact fitsEnds_run hbound howners hr
  · intro r
    -- The relation of a chain and a leaf, written out.
    exact mem_and_attributed_run_iff

/-- The course `M 1`, whose text names the course itself twice, in a conjunction and next to it. -/
def courseTwiceTasks : List Task :=
  tasksOf "(M#1{tfff}&A{ffff})|M#1{tfff}"

/-- The disjunction leads to the course with the attributes of its leaf, and to the conjunction with
none. The course leads to the disjunction with none. -/
theorem attributes_run_courseTwice :
    (∀ c, Task.bind c ∈ courseTwiceTasks → PlainStart c.nodeId) ∧
      (∀ owner text, Task.merge owner text ∈ courseTwiceTasks → PlainStart owner) ∧
      (⟨"|(&M#1A)M#1", "M#1", some false, some false, some false, some ""⟩ ∈
        (run {} (stepsOf courseTwiceTasks)).relations) ∧
      ({ source := "|(&M#1A)M#1", target := "(&M#1A)" } ∈
        (run {} (stepsOf courseTwiceTasks)).relations) ∧
      (∀ r ∈ (run {} (stepsOf courseTwiceTasks)).relations, r.source = "|(&M#1A)M#1" →
        r.target = "(&M#1A)" → r.Unattributed) ∧
      ∀ r ∈ (run {} (stepsOf courseTwiceTasks)).relations, r.source = "M#1" → r.Unattributed := by
  have hbound : ∀ c, Task.bind c ∈ courseTwiceTasks → PlainStart c.nodeId :=
    (plainStart_tasksOf _).1
  have howners : ∀ owner text, Task.merge owner text ∈ courseTwiceTasks → PlainStart owner :=
    (plainStart_tasksOf _).2
  have hmerge : Task.merge "M#1" "(M#1{tfff}&A{ffff})|M#1{tfff}" ∈ courseTwiceTasks :=
    List.mem_cons_of_mem _ List.mem_cons_self
  obtain ⟨g, hg, hread⟩ := Derivation.derives_courseTwice.exists_reading "M#1"
  -- The disjunction is the first chain of the text, and the conjunction the second.
  have hor : ⟨"|(&M#1A)M#1", .or⟩ ∈ (run {} (stepsOf courseTwiceTasks)).nodes :=
    mem_nodes_run hbound hmerge hg ((hread.nodes _).2 (.inr ⟨_, List.mem_cons_self, rfl⟩))
  have hand : ⟨"(&M#1A)", .and⟩ ∈ (run {} (stepsOf courseTwiceTasks)).nodes :=
    mem_nodes_run hbound hmerge hg
      ((hread.nodes _).2 (.inr ⟨_, List.mem_cons_of_mem _ List.mem_cons_self, rfl⟩))
  have hcourse : ⟨"M#1", .value⟩ ∈ (run {} (stepsOf courseTwiceTasks)).nodes :=
    mem_nodes_run hbound hmerge hg ((hread.nodes _).2 (.inl ⟨_, List.mem_cons_self, rfl⟩))
  have hstructural : { source := "|(&M#1A)M#1", target := "(&M#1A)" } ∈
      (run {} (stepsOf courseTwiceTasks)).relations :=
    mem_relations_run.2 ⟨_, _, g, hmerge, hg,
      hread.relation_to_member List.mem_cons_self List.mem_cons_self⟩
  obtain ⟨hfits, hleaves⟩ := attributes_run hbound howners
  refine ⟨hbound, howners, ((hleaves _).2 ⟨_, _, _, hmerge,
    derivesAll_tokenize.2 Derivation.derives_courseTwice, _, List.mem_cons_self, _,
    List.mem_cons_of_mem _ List.mem_cons_self, _, .lone .leaf, rfl⟩).1, hstructural, ?_, ?_⟩
  · intro r hr hsource htarget
    exact (hfits r hr).toChain _ hor hsource.symm (by simp) _ hand htarget.symm (by simp)
  · intro r hr hsource
    exact (hfits r hr).ofLeaf _ hcourse hsource.symm rfl

end Accumulator

end Requisite
