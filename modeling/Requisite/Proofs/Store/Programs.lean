import Requisite.Proofs.Store.Growth
import Requisite.Proofs.Store.Transactions

/-!
# The programs of the saves

Carried out on the tables, the program of each save leaves what the save leaves: the same tables,
the same counts, and where a row breaks a constraint the same fault
(`Program.carryOut_ofSave`). In particular no row is ever refused for its primary key, because each
key is looked up before a row with it is added, and a batch adds no key twice.
-/

namespace Requisite

open Schedule

variable {α β : Type}

/-- What a step of the tables gives to the session that makes it. -/
def refused (step : Except ConstraintFault α) : Except Refusal α :=
  step.mapError .constraint

/-- A fault in the first of two steps is the fault of both. -/
theorem refused_bind (step : Except ConstraintFault α) (next : α → Except ConstraintFault β) :
    refused (step.bind next) = (refused step).bind fun a => refused (next a) := by
  cases step <;> rfl

/-- What is made of a result makes no difference to a fault. -/
theorem refused_map (f : α → β) (step : Except ConstraintFault α) :
    refused (step.map f) = (refused step).map f := by
  cases step <;> rfl

namespace Program

variable {t : Tables}

/-! ## The graph -/

/-- Nodes are written one behind the other, if their ids are new and apart. -/
theorem carryOut_addEach_node {ns : List Node} (hnew : ∀ n ∈ ns, n.id ∉ t.nodes.map Node.id)
    (hapart : (ns.map Node.id).Nodup) (next : Program α) :
    (addEach (ns.map .node) next).carryOut Tables.execute t =
      next.carryOut Tables.execute { t with nodes := t.nodes ++ ns } := by
  induction ns generalizing t with
  | nil =>
    rw [List.append_nil]
    rfl
  | cons n ns ih =>
    obtain ⟨hn, hns⟩ := List.forall_mem_cons.1 hnew
    obtain ⟨hfirst, hrest⟩ := List.nodup_cons.1 hapart
    have hwritten : t.execute (.node n) = .ok { t with nodes := t.nodes ++ [n] } := if_neg hn
    -- The ids of the later nodes are also apart from the one that was written.
    have hnext : ∀ n' ∈ ns, n'.id ∉ (t.nodes ++ [n]).map Node.id := by
      intro n' hn' hmem
      rw [List.map_append, List.map_singleton, List.mem_append, List.mem_singleton] at hmem
      rcases hmem with hmem | heq
      · exact hns n' hn' hmem
      · exact hfirst (heq ▸ List.mem_map_of_mem hn')
    show (t.execute (.node n)).bind _ = _
    rw [hwritten]
    refine (ih (t := { t with nodes := t.nodes ++ [n] }) hnext hrest).trans ?_
    rw [List.append_assoc, List.singleton_append]

/-- Nodes are saved. -/
theorem carryOut_saveNodes (ns : List Node) :
    (saveNodes ns).carryOut Tables.execute t = .ok (t.saveNodes ns) := by
  refine (carryOut_addEach_node ?_ ?_ _).trans rfl
  · -- Of the ids that were looked up, those that are known are left out.
    intro n hn hstored
    obtain ⟨hunique, hnew⟩ := List.mem_filter.1 hn
    have hknown : n.id ∈ t.knownNodeIds ((firsts Node.id ns).map Node.id) :=
      Tables.mem_knownNodeIds.2 ⟨hstored, List.mem_map_of_mem hunique⟩
    simp [hknown] at hnew
  · exact (nodup_map_firsts Node.id ns).sublist (List.filter_sublist.map Node.id)

/-- Relations are written one behind the other. -/
theorem carryOut_addEach_relation (rs : List Relation) (next : Program α) :
    (addEach (rs.map .relation) next).carryOut Tables.execute t =
      next.carryOut Tables.execute { t with relations := t.relations ++ rs } := by
  induction rs generalizing t with
  | nil =>
    rw [List.append_nil]
    rfl
  | cons r rs ih =>
    refine (ih (t := { t with relations := t.relations ++ [r] })).trans ?_
    rw [List.append_assoc, List.singleton_append]

/-- Relations are saved. -/
theorem carryOut_saveRelations (rs : List Relation) :
    (saveRelations rs).carryOut Tables.execute t = .ok (t.saveRelations rs) :=
  carryOut_addEach_relation _ _

/-- A course whose key is not stored is inserted, unless its node belongs to another. -/
theorem execute_course {row : CourseRow} (h : ¬ (t.course? row.key).isSome) :
    t.execute (.course row) = refused (t.insertCourse row) :=
  if_neg h

/-- Courses are saved one by one. -/
theorem carryOut_saveCoursesAfter (seen : List (String × String)) (saved : Saved)
    (cs : List Course) : (saveCoursesAfter seen saved cs).carryOut Tables.execute t =
      refused (Tables.saveCoursesAfter seen saved t cs) := by
  induction cs generalizing seen saved t with
  | nil => rfl
  | cons c cs ih =>
    rw [saveCoursesAfter, Tables.saveCoursesAfter]
    by_cases hseen : seen.contains c.key
    · rw [if_pos hseen, if_pos hseen]
      exact ih _ _
    rw [if_neg hseen, if_neg hseen, carryOut]
    by_cases hstored : (t.course? c.key).isSome
    · rw [if_pos hstored, if_pos hstored]
      exact ih _ _
    · rw [if_neg hstored, if_neg hstored, carryOut, execute_course hstored]
      refine Eq.trans ?_ (refused_bind _ _).symm
      exact congrArg _ (funext fun t' => ih _ _)

/-- Courses are saved, after the node of each. -/
theorem carryOut_saveCourses (cs : List Course) :
    (saveCourses cs).carryOut Tables.execute t = refused (t.saveCourses cs) := by
  rw [saveCourses, carryOut_bind, carryOut_saveNodes]
  exact carryOut_saveCoursesAfter [] {} cs

/-- A graph is saved part by part. -/
theorem carryOut_saveGraph (ns : List Node) (cs : List Course) (rs : List Relation) :
    (saveGraph ns cs rs).carryOut Tables.execute t = refused (t.saveGraph ns cs rs) := by
  rw [saveGraph, carryOut_bind, carryOut_saveNodes]
  show (bind _ _).carryOut Tables.execute (t.saveNodes ns).1 = refused
    (((t.saveNodes ns).1.saveCourses cs).bind _)
  rw [carryOut_bind, carryOut_saveCourses, refused_bind]
  refine congrArg _ (funext fun after => ?_)
  rw [carryOut_map, carryOut_saveRelations]
  rfl

/-! ## Quarters, subject areas and links -/

/-- A program inserts items into a table one by one, if it passes over those whose keys are known
and the others are refused, or written to the end of the table, as they should be. -/
theorem carryOut_insertEach {γ κ : Type} [DecidableEq κ] (key : γ → κ)
    (key? : β → Except ConstraintFault κ) (row? : β → Except ConstraintFault γ)
    {known : Tables → β → Bool} {statement : β → Statement} (flushes : Bool)
    (get : Tables → List γ) (set : Tables → List γ → Tables)
    (hget : ∀ t rows, get (set t rows) = rows)
    (hset : ∀ t rows rows', set (set t rows) rows' = set t rows') (hself : ∀ t, set t (get t) = t)
    (hknown : ∀ t item, known t item ↔ ∃ k ∈ (get t).map key, key? item = .ok k)
    (hwritten : ∀ t item, ¬ known t item → t.execute (statement item) =
      refused ((key? item).bind fun _ => (row? item).map fun row => set t (get t ++ [row])))
    (items : List β) (inserted : Nat) :
    (insertEach known statement flushes inserted items).carryOut Tables.execute t =
      refused ((Tables.insertEach key key? row? (get t) items).map fun after =>
        (set t after.1, inserted + after.2)) := by
  induction items generalizing inserted t with
  | nil =>
    show _ = refused (.ok (set t (get t), inserted + 0))
    rw [hself]
    rfl
  | cons item items ih =>
    rw [insertEach, carryOut, Tables.insertEach]
    by_cases hitem : known t item
    · obtain ⟨k, hk, hkey⟩ := (hknown t item).1 hitem
      rw [if_pos hitem, ih, hkey]
      simp only [Except.bind, if_pos hk]
    rw [if_neg hitem]
    dsimp only
    rw [carryOut, hwritten t item hitem]
    cases hkey : key? item with
    | error fault => rfl
    | ok k =>
      have hk : k ∉ (get t).map key := fun hk => hitem ((hknown t item).2 ⟨k, hk, hkey⟩)
      simp only [Except.bind, if_neg hk]
      cases row? item with
      | error fault => rfl
      | ok row =>
        -- A flush in between makes no difference where every statement is carried out at once.
        have hrest : (if flushes then
              flush (insertEach known statement flushes (inserted + 1) items)
            else insertEach known statement flushes (inserted + 1) items).carryOut Tables.execute
              (set t (get t ++ [row])) =
            refused ((Tables.insertEach key key? row? (get t ++ [row]) items).map fun after =>
              (set t after.1, inserted + 1 + after.2)) := by
          have hih := ih (t := set t (get t ++ [row])) (inserted + 1)
          simp only [hget, hset] at hih
          cases flushes <;> exact hih
        refine hrest.trans ?_
        dsimp only
        cases Tables.insertEach key key? row? (get t ++ [row]) items with
        | error fault => rfl
        | ok after => simp only [Except.map, Nat.add_assoc, Nat.add_comm 1]

/-- A code is found exactly when a row has it. -/
theorem any_code_iff {γ : Type} {code : γ → String} {rows : List γ} {given : String} :
    (rows.any fun row => decide (some given = some (code row))) ↔ given ∈ rows.map code := by
  simp [eq_comm (a := given)]

/-- Quarters are saved. -/
theorem carryOut_saveQuarters (pairs : List (Option String × Option String)) :
    (saveQuarters pairs).carryOut Tables.execute t = refused (t.saveQuarters pairs) := by
  rw [Tables.saveQuarters_eq]
  refine (carryOut_insertEach Quarter.code (fun pair => Tables.required .quarterWithoutCode pair.1)
    Tables.quarterRow? true Tables.quarters
    (fun t rows => { t with quarters := rows }) (fun _ _ => rfl) (fun _ _ _ => rfl)
    (fun _ => rfl) ?_ ?_ pairs 0).trans ?_
  · rintro t ⟨_ | code, name⟩
    · simp [Tables.required]
    · rw [any_code_iff]
      simp [Tables.required]
  · rintro t ⟨_ | code, _ | name⟩ hnew
    · rfl
    · rfl
    · rfl
    · exact if_neg (mt any_code_iff.2 hnew)
  · simp only [Nat.zero_add]

/-- Subject areas are saved. -/
theorem carryOut_saveSubjects (pairs : List (Option String × Option String)) :
    (saveSubjects pairs).carryOut Tables.execute t = refused (t.saveSubjects pairs) := by
  rw [Tables.saveSubjects_eq]
  refine (carryOut_insertEach SubjectArea.code
    (fun pair => Tables.required .subjectWithoutCode pair.1) Tables.subjectRow? true Tables.subjects
    (fun t rows => { t with subjects := rows }) (fun _ _ => rfl) (fun _ _ _ => rfl)
    (fun _ => rfl) ?_ ?_ pairs 0).trans ?_
  · rintro t ⟨_ | code, name⟩
    · simp [Tables.required]
    · rw [any_code_iff]
      simp [Tables.required]
  · rintro t ⟨_ | code, _ | name⟩ hnew
    · rfl
    · rfl
    · rfl
    · exact if_neg (mt any_code_iff.2 hnew)
  · simp only [Nat.zero_add]

/-- A link is found exactly when it is stored. -/
theorem any_link_iff {quarter subject : String} :
    (t.links.any fun l => decide (some quarter = some l.quarter ∧ some subject = some l.subject)) ↔
      ⟨quarter, subject⟩ ∈ t.links := by
  rw [List.any_eq_true]
  constructor
  · rintro ⟨link, hlink, hsame⟩
    obtain ⟨hquarter, hsubject⟩ := of_decide_eq_true hsame
    cases hquarter
    cases hsubject
    exact hlink
  · intro hlink
    exact ⟨_, hlink, decide_eq_true ⟨rfl, rfl⟩⟩

/-- A quarter is linked to subject areas. -/
theorem carryOut_saveLinks (quarter : Option String) (codes : List (Option String)) :
    (saveLinks quarter codes).carryOut Tables.execute t = refused (t.saveLinks quarter codes) := by
  rw [Tables.saveLinks_eq]
  refine (carryOut_insertEach id (Tables.linkRow? quarter) (Tables.linkRow? quarter) false
    Tables.links (fun t rows => { t with links := rows }) (fun _ _ => rfl)
    (fun _ _ _ => rfl) (fun _ => rfl) ?_ ?_ (firsts id codes) 0).trans ?_
  · intro t code
    rw [List.map_id]
    obtain _ | quarter := quarter
    · simp [Tables.linkRow?, Tables.required, Except.bind]
    obtain _ | subject := code
    · simp [Tables.linkRow?, Tables.required, Except.bind, Except.map]
    · rw [any_link_iff]
      simp [Tables.linkRow?, Tables.required, Except.bind, Except.map]
  · intro t code hnew
    obtain _ | quarter := quarter
    · rfl
    obtain _ | subject := code
    · rfl
    · exact if_neg (mt any_link_iff.2 hnew)
  · simp only [Nat.zero_add]

/-! ## Course details -/

/-- Details are saved one by one. -/
theorem carryOut_saveDetailsOf (saved : DetailsSaved) (ds : List CourseDetails) :
    (saveDetailsOf saved ds).carryOut Tables.execute t =
      refused (Tables.saveDetailsOf saved t ds) := by
  induction ds generalizing saved t with
  | nil => rfl
  | cons d ds ih =>
    rw [saveDetailsOf, Tables.saveDetailsOf, carryOut]
    dsimp only
    by_cases hstored : (t.course? (d.subject, d.catalog)).isSome
    · rw [if_pos hstored, if_pos hstored]
      exact ih _
    · rw [if_neg hstored, if_neg hstored, carryOut, execute_course hstored]
      refine Eq.trans ?_ (refused_bind _ _).symm
      exact congrArg _ (funext fun t' => ih _)

/-- Details are saved, after the nodes of their courses. -/
theorem carryOut_saveDetails (ds : List CourseDetails) :
    (saveDetails ds).carryOut Tables.execute t = refused (t.saveDetails ds) := by
  rw [saveDetails, carryOut_bind, carryOut_saveNodes]
  exact carryOut_saveDetailsOf {} ds

/-! ## All saves -/

/-- The program of a save up to its commit, with the rows that are counted as inserted. -/
def ofSave : Save → Program Inserted
  | .nodes ns => (saveNodes ns).map fun saved => { nodes := saved.inserted }
  | .courses cs => (saveCourses cs).map fun saved => { courses := saved.inserted }
  | .relations rs => (saveRelations rs).map fun saved => { relations := saved.inserted }
  | .graph ns cs rs => (saveGraph ns cs rs).map GraphSaved.rows
  | .quarters pairs => (saveQuarters pairs).map fun n => { quarters := n }
  | .subjects pairs => (saveSubjects pairs).map fun n => { subjects := n }
  | .links quarter codes => (saveLinks quarter codes).map fun n => { links := n }
  | .details ds => (saveDetails ds).map fun saved => { courses := saved.inserted }

/-- What is saved by a program is saved by the tables, and what they refuse is refused. -/
theorem carryOut_ofSave (what : Save) :
    (ofSave what).carryOut Tables.execute t = refused (t.save what) := by
  cases what with
  | nodes ns =>
    rw [ofSave, carryOut_map, carryOut_saveNodes]
    rfl
  | relations rs =>
    rw [ofSave, carryOut_map, carryOut_saveRelations]
    rfl
  | courses cs => rw [ofSave, carryOut_map, carryOut_saveCourses, ← refused_map, Tables.save]
  | graph ns cs rs => rw [ofSave, carryOut_map, carryOut_saveGraph, ← refused_map, Tables.save]
  | quarters pairs => rw [ofSave, carryOut_map, carryOut_saveQuarters, ← refused_map, Tables.save]
  | subjects pairs => rw [ofSave, carryOut_map, carryOut_saveSubjects, ← refused_map, Tables.save]
  | links quarter codes => rw [ofSave, carryOut_map, carryOut_saveLinks, ← refused_map, Tables.save]
  | details ds => rw [ofSave, carryOut_map, carryOut_saveDetails, ← refused_map, Tables.save]

/-! ## No commit on the way -/

/-- Nodes are saved without a commit. -/
theorem commitFree_saveNodes (ns : List Node) : (saveNodes ns).CommitFree :=
  fun _ => .addEach (.flush (commitFree_done _)) _

/-- Relations are saved without a commit. -/
theorem commitFree_saveRelations (rs : List Relation) : (saveRelations rs).CommitFree :=
  fun _ => .addEach (.flush (commitFree_done _)) _

/-- Courses are saved without a commit. -/
theorem commitFree_saveCourses (cs : List Course) : (saveCourses cs).CommitFree := by
  refine (commitFree_saveNodes _).bind fun _ => ?_
  have hafter (seen : List (String × String)) (saved : Saved) :
      (saveCoursesAfter seen saved cs).CommitFree := by
    induction cs generalizing seen saved with
    | nil => exact .flush (commitFree_done _)
    | cons c cs ih =>
      rw [saveCoursesAfter]
      split
      · exact ih _ _
      · intro t
        dsimp only
        split <;> exact ih _ _
  exact hafter [] {}

/-- The items of a table are inserted without a commit. -/
theorem commitFree_insertEach (known : Tables → β → Bool) (row : β → Statement) (flushes : Bool)
    (inserted : Nat) (items : List β) :
    (insertEach known row flushes inserted items).CommitFree := by
  induction items generalizing inserted with
  | nil => exact trivial
  | cons item items ih =>
    intro t
    dsimp only
    split
    · exact ih _
    · show (if flushes then flush _ else _).CommitFree
      split
      · exact .flush (ih _)
      · exact ih _

/-- Details are saved without a commit. -/
theorem commitFree_saveDetails (ds : List CourseDetails) : (saveDetails ds).CommitFree := by
  refine (commitFree_saveNodes _).bind fun _ => ?_
  have hafter (saved : DetailsSaved) : (saveDetailsOf saved ds).CommitFree := by
    induction ds generalizing saved with
    | nil => exact trivial
    | cons d ds ih =>
      intro t
      dsimp only
      split <;> exact .flush (ih _)
  exact hafter {}

/-- Whatever is saved, the program does not commit before it is done. -/
theorem commitFree_ofSave (what : Save) : (ofSave what).CommitFree := by
  cases what with
  | nodes ns => exact (commitFree_saveNodes ns).map _
  | courses cs => exact (commitFree_saveCourses cs).map _
  | relations rs => exact (commitFree_saveRelations rs).map _
  | graph ns cs rs =>
    refine CommitFree.map ?_ _
    exact (commitFree_saveNodes ns).bind fun _ =>
      (commitFree_saveCourses cs).bind fun _ => (commitFree_saveRelations rs).map _
  | quarters pairs => exact (commitFree_insertEach _ _ _ _ _).map _
  | subjects pairs => exact (commitFree_insertEach _ _ _ _ _).map _
  | links quarter codes => exact (commitFree_insertEach _ _ _ _ _).map _
  | details ds => exact (commitFree_saveDetails ds).map _

end Program

end Requisite
