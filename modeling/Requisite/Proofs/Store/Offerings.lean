import Requisite.Proofs.Outcome
import Requisite.Store.Save

/-!
# What saving quarters, subject areas and links leaves

Three tables say what the schedule offers, and all three are filled in one way (`insertEach`): of
the items of a batch, those whose keys are known are passed over, and each of the others becomes a
row at the end of its table, unless it lacks something that a row needs. So a batch that was saved
makes the rows more and keeps their keys apart (`insertEach_eq_ok`, `nodup_insertEach`), and leaves
all its keys known (`known_insertEach`). A batch of known keys changes nothing
(`Known.insertEach_eq`).
-/

namespace Requisite

namespace Tables

section

variable {ε α β κ : Type} [DecidableEq κ]

/-- The rows after the items are inserted one by one, and how many of them were. An item with a
known key is passed over; any other is refused if it lacks its key or has no row. -/
def insertEach (key : α → κ) (key? : β → Except ε κ) (row? : β → Except ε α) (rows : List α) :
    List β → Except ε (List α × Nat)
  | [] => .ok (rows, 0)
  | item :: items =>
    (key? item).bind fun k =>
      if k ∈ rows.map key then insertEach key key? row? rows items
      else
        (row? item).bind fun row =>
          (insertEach key key? row? (rows ++ [row]) items).map fun after =>
            (after.1, after.2 + 1)

/-- Every item has a key, and it is the key of a row. -/
def Known (key : α → κ) (key? : β → Except ε κ) (rows : List α) (items : List β) : Prop :=
  ∀ item ∈ items, ∃ k ∈ rows.map key, key? item = .ok k

variable {key : α → κ} {key? : β → Except ε κ} {row? : β → Except ε α} {rows rows' : List α}
  {items : List β} {n : Nat}

/-- An item is passed over if its key is known, and else it is the next row, with its key. -/
theorem insertEach_cons_eq_ok {item : β} :
    insertEach key key? row? rows (item :: items) = .ok (rows', n) ↔
      ∃ k, key? item = .ok k ∧
        (k ∈ rows.map key ∧ insertEach key key? row? rows items = .ok (rows', n) ∨
          k ∉ rows.map key ∧ ∃ row m, row? item = .ok row ∧
            insertEach key key? row? (rows ++ [row]) items = .ok (rows', m) ∧ n = m + 1) := by
  rw [insertEach, bind_eq_ok]
  refine exists_congr fun k => and_congr_right fun _ => ?_
  by_cases hk : k ∈ rows.map key
  · simp [hk]
  · rw [if_neg hk, bind_eq_ok]
    simp only [map_eq_ok, hk, false_and, false_or, not_false_eq_true, true_and, Prod.exists,
      Prod.mk.injEq]
    grind

/-- Items with known keys are all passed over. -/
theorem Known.insertEach_eq (h : Known key key? rows items) :
    insertEach key key? row? rows items = .ok (rows, 0) := by
  induction items with
  | nil => rfl
  | cons item items ih =>
    obtain ⟨⟨k, hk, hkey⟩, hrest⟩ := List.forall_mem_cons.1 h
    exact insertEach_cons_eq_ok.2 ⟨k, hkey, .inl ⟨hk, ih hrest⟩⟩

/-- The inserted rows go to the end, and are counted. -/
theorem insertEach_eq_ok (h : insertEach key key? row? rows items = .ok (rows', n)) :
    ∃ fresh, rows' = rows ++ fresh ∧ n = fresh.length := by
  induction items generalizing rows n with
  | nil =>
    obtain ⟨rfl, rfl⟩ := Prod.mk.inj (Except.ok.inj h)
    exact ⟨[], (List.append_nil rows).symm, rfl⟩
  | cons item items ih =>
    obtain ⟨k, -, ⟨-, hrest⟩ | ⟨-, row, m, -, hrest, rfl⟩⟩ := insertEach_cons_eq_ok.1 h
    · exact ih hrest
    · obtain ⟨fresh, rfl, rfl⟩ := ih hrest
      exact ⟨row :: fresh, by rw [List.append_assoc, List.singleton_append], rfl⟩

variable (hkey : ∀ item k row, key? item = .ok k → row? item = .ok row → key row = k)

include hkey

/-- The keys stay apart. -/
theorem nodup_insertEach (h : insertEach key key? row? rows items = .ok (rows', n))
    (hrows : (rows.map key).Nodup) : (rows'.map key).Nodup := by
  induction items generalizing rows n with
  | nil =>
    cases h
    exact hrows
  | cons item items ih =>
    obtain ⟨k, hk, ⟨-, hrest⟩ | ⟨hnew, row, m, hrow, hrest, -⟩⟩ := insertEach_cons_eq_ok.1 h
    · exact ih hrest hrows
    · refine ih hrest ?_
      rw [← hkey item k row hk hrow] at hnew
      rw [← addNew_of_not_mem hnew]
      exact nodup_map_addNew hrows

/-- The rows of the items arrive one by one. -/
theorem insertEach_eq_addAll (h : insertEach key key? row? rows items = .ok (rows', n)) :
    rows' = addAll key rows (items.filterMap fun item => (row? item).toOption) := by
  induction items generalizing rows n with
  | nil =>
    cases h
    rfl
  | cons item items ih =>
    obtain ⟨k, hk, ⟨hknown, hrest⟩ | ⟨hnew, row, m, hrow, hrest, -⟩⟩ := insertEach_cons_eq_ok.1 h
    · -- The item may have a row, but that has a known key.
      cases hitem : row? item with
      | error fault =>
        rw [List.filterMap_cons_none (by rw [hitem]; rfl)]
        exact ih hrest
      | ok row =>
        rw [List.filterMap_cons_some (by rw [hitem]; rfl)]
        rw [← hkey item k row hk hitem] at hknown
        show _ = addAll key (addNew key rows row) _
        rw [addNew_of_mem hknown]
        exact ih hrest
    · rw [List.filterMap_cons_some (by rw [hrow]; rfl)]
      rw [← hkey item k row hk hrow] at hnew
      show _ = addAll key (addNew key rows row) _
      rw [addNew_of_not_mem hnew]
      exact ih hrest

/-- Afterwards all items are known. -/
theorem known_insertEach (h : insertEach key key? row? rows items = .ok (rows', n)) :
    Known key key? rows' items := by
  induction items generalizing rows n with
  | nil => exact List.forall_mem_nil _
  | cons item items ih =>
    obtain ⟨k, hk, ⟨hknown, hrest⟩ | ⟨-, row, m, hrow, hrest, -⟩⟩ := insertEach_cons_eq_ok.1 h
    · obtain ⟨fresh, rfl, -⟩ := insertEach_eq_ok hrest
      refine List.forall_mem_cons.2 ⟨⟨k, ?_, hk⟩, ih hrest⟩
      exact List.map_subset key (List.subset_append_left rows fresh) hknown
    · obtain ⟨fresh, rfl, -⟩ := insertEach_eq_ok hrest
      refine List.forall_mem_cons.2 ⟨⟨k, ?_, hk⟩, ih hrest⟩
      rw [← hkey item k row hk hrow]
      exact List.mem_map_of_mem (by simp)

end

/-! ## The three tables -/

/-- The value, where there is one. -/
def required {α : Type} (fault : ConstraintFault) : Option α → Except ConstraintFault α
  | some a => .ok a
  | none => .error fault

/-- The row of a quarter, given by code and name. -/
def quarterRow? (pair : Option String × Option String) : Except ConstraintFault Quarter :=
  (required .quarterWithoutCode pair.1).bind fun code =>
    (required .quarterWithoutName pair.2).map fun name => ⟨code, name⟩

/-- The row of a subject area, given by code and name. -/
def subjectRow? (pair : Option String × Option String) : Except ConstraintFault SubjectArea :=
  (required .subjectWithoutCode pair.1).bind fun code =>
    (required .subjectWithoutName pair.2).map fun name => ⟨code, name⟩

/-- The row that links a quarter to a subject area. -/
def linkRow? (quarter code : Option String) : Except ConstraintFault Link :=
  (required .linkWithoutQuarter quarter).bind fun q =>
    (required .linkWithoutSubject code).map fun subject => ⟨q, subject⟩

/-- What fills one table item by item inserts each item into it. -/
theorem eq_insertEach {α β κ : Type} [DecidableEq κ] {key : α → κ}
    {key? : β → Except ConstraintFault κ} {row? : β → Except ConstraintFault α}
    (get : Tables → List α) (set : Tables → List α → Tables)
    (fill : Tables → List β → Except ConstraintFault (Tables × Nat))
    (hget : ∀ t rows, get (set t rows) = rows)
    (hset : ∀ t rows rows', set (set t rows) rows' = set t rows') (hself : ∀ t, set t (get t) = t)
    (hnil : ∀ t, fill t [] = .ok (t, 0))
    (hcons : ∀ t item items, fill t (item :: items) = (key? item).bind fun k =>
      if k ∈ (get t).map key then fill t items
      else (row? item).bind fun row =>
        (fill (set t (get t ++ [row])) items).map fun after => (after.1, after.2 + 1))
    (t : Tables) (items : List β) :
    fill t items = (insertEach key key? row? (get t) items).map fun after =>
      (set t after.1, after.2) := by
  induction items generalizing t with
  | nil => rw [hnil, insertEach, Except.map, hself]
  | cons item items ih =>
    rw [hcons, insertEach]
    cases key? item with
    | error fault => rfl
    | ok k =>
      simp only [Except.bind]
      by_cases hk : k ∈ (get t).map key
      · rw [if_pos hk, if_pos hk, ih]
      · rw [if_neg hk, if_neg hk]
        cases row? item with
        | error fault => rfl
        | ok row =>
          dsimp only
          rw [ih, hget]
          cases insertEach key key? row? (get t ++ [row]) items with
          | error fault => rfl
          | ok after => simp only [Except.map, hset]

/-- Quarters are inserted by their codes. -/
theorem saveQuarters_eq (t : Tables) (pairs : List (Option String × Option String)) :
    t.saveQuarters pairs =
      (insertEach Quarter.code (fun pair => required .quarterWithoutCode pair.1) quarterRow?
        t.quarters pairs).map fun after => ({ t with quarters := after.1 }, after.2) := by
  refine eq_insertEach Tables.quarters (fun t rows => { t with quarters := rows }) saveQuarters
    (fun _ _ => rfl) (fun _ _ _ => rfl) (fun _ => rfl) (fun _ => rfl) (fun t pair pairs => ?_)
    t pairs
  obtain ⟨_ | code, name⟩ := pair
  · rfl
  · have hcode : (t.quarters.any fun q => decide (q.code = code)) = true ↔
        code ∈ t.quarters.map Quarter.code := by simp
    cases name <;> simp only [saveQuarters, hcode] <;> rfl

/-- Subject areas are inserted by their codes. -/
theorem saveSubjects_eq (t : Tables) (pairs : List (Option String × Option String)) :
    t.saveSubjects pairs =
      (insertEach SubjectArea.code (fun pair => required .subjectWithoutCode pair.1) subjectRow?
        t.subjects pairs).map fun after => ({ t with subjects := after.1 }, after.2) := by
  refine eq_insertEach Tables.subjects (fun t rows => { t with subjects := rows }) saveSubjects
    (fun _ _ => rfl) (fun _ _ _ => rfl) (fun _ => rfl) (fun _ => rfl) (fun t pair pairs => ?_)
    t pairs
  obtain ⟨_ | code, name⟩ := pair
  · rfl
  · have hcode : (t.subjects.any fun area => decide (area.code = code)) = true ↔
        code ∈ t.subjects.map SubjectArea.code := by simp
    cases name <;> simp only [saveSubjects, hcode] <;> rfl

/-- Links are inserted as they are, each once. -/
theorem saveLinks_eq (t : Tables) (quarter : Option String) (codes : List (Option String)) :
    t.saveLinks quarter codes =
      (insertEach id (linkRow? quarter) (linkRow? quarter) t.links (firsts id codes)).map
        fun after => ({ t with links := after.1 }, after.2) := by
  refine eq_insertEach Tables.links (fun t rows => { t with links := rows })
    (fun t codes => t.saveLinksOf quarter codes) (fun _ _ => rfl) (fun _ _ _ => rfl) (fun _ => rfl)
    (fun _ => rfl) (fun t code codes => ?_) t (firsts id codes)
  cases quarter with
  | none => rfl
  | some q =>
    cases code with
    | none => rfl
    | some subject =>
      simp only [saveLinksOf, List.contains_iff_mem, List.map_id]
      rfl

/-- The row of a quarter has its code. -/
theorem code_of_quarterRow? (pair : Option String × Option String) (code : String) (q : Quarter)
    (hcode : required .quarterWithoutCode pair.1 = .ok code) (hrow : quarterRow? pair = .ok q) :
    q.code = code := by
  obtain ⟨_ | c, _ | name⟩ := pair <;> cases hcode <;> cases hrow
  rfl

/-- The row of a subject area has its code. -/
theorem code_of_subjectRow? (pair : Option String × Option String) (code : String)
    (area : SubjectArea) (hcode : required .subjectWithoutCode pair.1 = .ok code)
    (hrow : subjectRow? pair = .ok area) : area.code = code := by
  obtain ⟨_ | c, _ | name⟩ := pair <;> cases hcode <;> cases hrow
  rfl

/-- A link is its own key. -/
theorem id_of_linkRow? {quarter : Option String} (code : Option String) (k link : Link)
    (hkey : linkRow? quarter code = .ok k) (hrow : linkRow? quarter code = .ok link) :
    id link = k :=
  Except.ok.inj (hrow.symm.trans hkey)

end Tables

end Requisite
