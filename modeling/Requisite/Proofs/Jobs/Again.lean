import Requisite.Job
import Requisite.Proofs.Crawl.Contributions
import Requisite.Proofs.Store.Again
import Requisite.Proofs.Store.Offerings

/-!
# Running a job again

A job that has run to its end leaves nothing for the same job to do, as long as the site answers as
it did. The quarters that the schedule offers are stored. So are the subject areas of each quarter,
with their links, unless they were not to be had, and then they are not to be had again. What the
job saves for one quarter stays there while it saves others (`Tables.Extends`). A crawl is decided
by the stored quarters, subject areas and links, of which saving a graph changes none, so it
collects the same again (`Job.collected`), and a graph that was saved is saved again without a
change.
-/

namespace Requisite

open Schedule

/-! ## What stays known -/

namespace Tables

variable {t t' : Tables} {n : Nat}

/-- The subject areas are stored, and linked to the quarter. -/
def Offers (t : Tables) (quarter : String) (areas : List SubjectArea) : Prop :=
  ∀ area ∈ areas, area.code ∈ t.subjects.map SubjectArea.code ∧ ⟨quarter, area.code⟩ ∈ t.links

/-- There are the same quarters, and no fewer subject areas and links. -/
structure Extends (t t' : Tables) : Prop where
  quarters : t'.quarters = t.quarters
  subjects : t.subjects ⊆ t'.subjects
  links : t.links ⊆ t'.links

/-- Nothing needs to change. -/
theorem Extends.refl (t : Tables) : t.Extends t :=
  ⟨rfl, List.Subset.refl _, List.Subset.refl _⟩

/-- One change may follow another. -/
theorem Extends.trans {t'' : Tables} (h : t.Extends t') (h' : t'.Extends t'') : t.Extends t'' :=
  ⟨h'.quarters.trans h.quarters, List.Subset.trans h.subjects h'.subjects,
    List.Subset.trans h.links h'.links⟩

/-- What is stored and linked stays so. -/
theorem Offers.mono {quarter : String} {areas : List SubjectArea} (h : t.Offers quarter areas)
    (hext : t.Extends t') : t'.Offers quarter areas := by
  intro area harea
  obtain ⟨hcode, hlink⟩ := h area harea
  exact ⟨List.map_subset _ hext.subjects hcode, hext.links hlink⟩

/-- Quarters that were saved are saved again without a change. -/
theorem saveQuarters_again {pairs : List (Option String × Option String)}
    (h : t.saveQuarters pairs = .ok (t', n)) : t'.saveQuarters pairs = .ok (t', 0) := by
  rw [saveQuarters_eq, map_eq_ok] at h
  obtain ⟨⟨rows, count⟩, hrows, heq⟩ := h
  obtain ⟨rfl, -⟩ := Prod.mk.inj heq
  have hknown := known_insertEach code_of_quarterRow? hrows
  rw [saveQuarters_eq, hknown.insertEach_eq]
  rfl

/-- Subject areas are known by their codes. -/
theorem known_subjects_iff {rows areas : List SubjectArea} :
    Known SubjectArea.code (fun pair : Option String × Option String =>
        required .subjectWithoutCode pair.1) rows (areas.map fun a => (some a.code, some a.name)) ↔
      ∀ area ∈ areas, area.code ∈ rows.map SubjectArea.code := by
  rw [Known, List.forall_mem_map]
  simp [required]

/-- Links are known by all that they hold. -/
theorem known_links_iff {rows : List Link} {quarter : String} {areas : List SubjectArea} :
    Known id (linkRow? (some quarter)) rows (firsts id (areas.map fun a => some a.code)) ↔
      ∀ area ∈ areas, ⟨quarter, area.code⟩ ∈ rows := by
  simp only [Known, mem_firsts_id, List.forall_mem_map]
  simp [linkRow?, required, Except.bind, Except.map]

/-- After the subject areas of a quarter are saved and linked, they are stored and linked, and what
was there still is. -/
theorem offers_of_save {u : Tables} {m : Nat} {quarter : String} {areas : List SubjectArea}
    (hareas : t.saveSubjects (areas.map fun a => (some a.code, some a.name)) = .ok (u, n))
    (hlinks : u.saveLinks (some quarter) (areas.map fun a => some a.code) = .ok (t', m)) :
    t.Extends t' ∧ t'.Offers quarter areas := by
  rw [saveSubjects_eq, map_eq_ok] at hareas
  obtain ⟨⟨rows, count⟩, hrows, heq⟩ := hareas
  obtain ⟨rfl, -⟩ := Prod.mk.inj heq
  rw [saveLinks_eq, map_eq_ok] at hlinks
  obtain ⟨⟨links, count'⟩, hrows', heq'⟩ := hlinks
  obtain ⟨rfl, -⟩ := Prod.mk.inj heq'
  have hcodes := known_subjects_iff.1 (known_insertEach code_of_subjectRow? hrows)
  have hlinked := known_links_iff.1 (known_insertEach id_of_linkRow? hrows')
  obtain ⟨fresh, hfresh, -⟩ := insertEach_eq_ok hrows
  obtain ⟨fresh', hfresh', -⟩ := insertEach_eq_ok hrows'
  refine ⟨⟨rfl, ?_, ?_⟩, fun area harea => ⟨hcodes area harea, hlinked area harea⟩⟩
  · rw [hfresh]
    exact List.subset_append_left _ _
  · rw [hfresh']
    exact List.subset_append_left _ _

/-- Stored subject areas are saved without a change. -/
theorem Offers.saveSubjects {quarter : String} {areas : List SubjectArea}
    (h : t.Offers quarter areas) :
    t.saveSubjects (areas.map fun a => (some a.code, some a.name)) = .ok (t, 0) := by
  have hknown := known_subjects_iff.2 fun area harea => (h area harea).1
  rw [saveSubjects_eq, hknown.insertEach_eq]
  rfl

/-- Stored subject areas are linked without a change. -/
theorem Offers.saveLinks {quarter : String} {areas : List SubjectArea}
    (h : t.Offers quarter areas) :
    t.saveLinks (some quarter) (areas.map fun a => some a.code) = .ok (t, 0) := by
  have hknown := known_links_iff.2 fun area harea => (h area harea).2
  rw [saveLinks_eq, hknown.insertEach_eq]
  rfl

end Tables

/-- A session on tables that are all committed. -/
def Session.on (t : Tables) : Session where
  committed := t
  working := t

/-- A job at its start on the tables of a store. -/
def JobState.on (t : Tables) : JobState where
  session := .on t

namespace Job

variable {settings : Settings} {site : Site} {j j' : JobState} {t t' : Tables} {quarter : String}

/-! ## Quarters -/

/-- The job for the quarters ends well exactly if they are to be had, and can be saved. -/
theorem exists_quarters_iff {n : Nat} {s : Session} :
    (∃ j', quarters settings site j = (j', .ok n) ∧ j'.session = s) ↔
      ∃ found t', settings.quartersQuery.result site = .ok found ∧
        j.session.working.saveQuarters (found.map fun q => (some q.code, some q.name)) =
          .ok (t', n) ∧ s = .on t' := by
  rw [quarters]
  constructor
  · rintro ⟨j', h, rfl⟩
    split at h
    next failure herror => cases h
    next found hfound =>
      split at h
      next session fault hsave => cases h
      next session inserted hsave =>
        cases h
        obtain ⟨t', hsaved, rfl⟩ := Session.transact_eq_ok_iff.1 hsave
        exact ⟨found, t', hfound, hsaved, rfl⟩
  · rintro ⟨found, t', hfound, hsaved, rfl⟩
    have hsave : (j.ask site settings.quartersQuery).session.saveQuarters
        (found.map fun q => (some q.code, some q.name)) = (.on t', .ok n) :=
      Session.transact_eq_ok_iff.2 ⟨t', hsaved, rfl⟩
    rw [hfound]
    dsimp only
    rw [hsave]
    exact ⟨_, rfl, rfl⟩

/-! ## Subject areas -/

/-- There is nothing to do for the quarter: its subject areas are stored and linked, or they are not
to be had, as is foreseen. -/
def Done (settings : Settings) (site : Site) (t : Tables) (quarter : String) : Prop :=
  match (settings.subjectAreasQuery quarter).result site with
  | .ok areas => t.Offers quarter areas
  | .error failure => ∃ reason, failure.reason? = some reason

/-- What is done stays done. -/
theorem Done.mono (h : Done settings site t quarter) (hext : t.Extends t') :
    Done settings site t' quarter := by
  rw [Done] at h ⊢
  split at h
  next areas hareas => exact h.mono hext
  next failure herror => exact h

/-- A line that says that nothing was new for a quarter. -/
def SaysNothingNew (line : String) : Prop :=
  ∃ (quarter : String) (count : Nat), line = s!"{quarter}: {count} subject areas (0 new, 0 linked)"

/-- What the job for the subject areas of a quarter does, if it ends well, is done. -/
theorem done_of_subjectsOf (h : subjectsOf settings site quarter j = (j', .ok ()))
    (hj : j.session = .on t) :
    ∃ t', j'.session = .on t' ∧ t.Extends t' ∧ Done settings site t' quarter := by
  rw [subjectsOf] at h
  split at h
  next failure herror =>
    split at h
    next reason hreason =>
      cases h
      exact ⟨t, hj, .refl t, by simp [Done, herror, hreason]⟩
    next hreason => cases h
  next areas hareas =>
    split at h
    next session fault hsave => cases h
    next session inserted hsave =>
      split at h
      next session' fault hsave' => cases h
      next session' linked hsave' =>
        cases h
        -- The links are saved to the tables that the subject areas have left, committed ones.
        obtain ⟨u, hsaved, rfl⟩ := Session.transact_eq_ok_iff.1 hsave
        obtain ⟨t', hlinked, rfl⟩ := Session.transact_eq_ok_iff.1 hsave'
        have hworking : (j.ask site (settings.subjectAreasQuery quarter)).session.working = t :=
          congrArg Session.working hj
        rw [hworking] at hsaved
        obtain ⟨hext, hoffers⟩ := Tables.offers_of_save hsaved hlinked
        exact ⟨t', rfl, hext, by simpa [Done, hareas] using hoffers⟩

/-- What is done is not done again. -/
theorem Done.subjectsOf (h : Done settings site t quarter) (hj : j.session = .on t) :
    ∃ j' lines, Job.subjectsOf settings site quarter j = (j', .ok ()) ∧ j'.session = .on t ∧
      j'.output = j.output ++ lines ∧ ∀ line ∈ lines, SaysNothingNew line := by
  rw [Job.subjectsOf]
  rw [Done] at h
  split at h
  next areas hareas =>
    have hsave : (j.ask site (settings.subjectAreasQuery quarter)).session.saveSubjects
        (areas.map fun a => (some a.code, some a.name)) = (.on t, .ok 0) := by
      refine Session.transact_eq_ok_iff.2 ⟨t, ?_, rfl⟩
      rw [← h.saveSubjects]
      exact congrArg (fun s : Session => s.working.saveSubjects _) hj
    have hlink : (Session.on t).saveLinks (some quarter) (areas.map fun a => some a.code) =
        (.on t, .ok 0) :=
      Session.transact_eq_ok_iff.2 ⟨t, h.saveLinks, rfl⟩
    rw [hareas]
    dsimp only
    rw [hsave]
    dsimp only
    rw [hlink]
    refine ⟨_, [_], rfl, rfl, rfl, List.forall_mem_singleton.2 ⟨quarter, areas.length, ?_⟩⟩
    simp only [String.append_assoc]
    rfl
  next failure herror =>
    obtain ⟨reason, hreason⟩ := h
    rw [herror]
    dsimp only
    rw [hreason]
    exact ⟨_, [], rfl, hj, (List.append_nil _).symm, List.forall_mem_nil _⟩

/-- After the subject areas of some quarters are stored, all of them are done. -/
theorem done_of_subjectsOfAll {quarters : List String}
    (h : subjectsOfAll settings site quarters j = (j', .ok ())) (hj : j.session = .on t) :
    ∃ t', j'.session = .on t' ∧ t.Extends t' ∧
      ∀ quarter ∈ quarters, Done settings site t' quarter := by
  induction quarters generalizing j t with
  | nil =>
    rw [subjectsOfAll] at h
    cases h
    exact ⟨t, hj, .refl t, List.forall_mem_nil _⟩
  | cons quarter quarters ih =>
    rw [subjectsOfAll] at h
    split at h
    next j₁ hquarter =>
      -- What is done for this quarter stays done while the others are stored.
      obtain ⟨t₁, hj₁, hext₁, hdone⟩ := done_of_subjectsOf hquarter hj
      obtain ⟨t', hj', hext, hrest⟩ := ih h hj₁
      exact ⟨t', hj', hext₁.trans hext, List.forall_mem_cons.2 ⟨hdone.mono hext, hrest⟩⟩
    next j₁ fault hquarter => cases h

/-- Where all quarters are done, nothing is done for any of them. -/
theorem subjectsOfAll_of_done {quarters : List String}
    (h : ∀ quarter ∈ quarters, Done settings site t quarter) (hj : j.session = .on t) :
    ∃ j' lines, subjectsOfAll settings site quarters j = (j', .ok ()) ∧ j'.session = .on t ∧
      j'.output = j.output ++ lines ∧ ∀ line ∈ lines, SaysNothingNew line := by
  induction quarters generalizing j with
  | nil => exact ⟨j, [], rfl, hj, (List.append_nil _).symm, List.forall_mem_nil _⟩
  | cons quarter quarters ih =>
    obtain ⟨hquarter, hquarters⟩ := List.forall_mem_cons.1 h
    obtain ⟨j₁, lines₁, hrun₁, hj₁, houtput₁, hlines₁⟩ := hquarter.subjectsOf hj
    obtain ⟨j', lines, hrun, hj', houtput, hlines⟩ := ih hquarters hj₁
    refine ⟨j', lines₁ ++ lines, ?_, hj', ?_, List.forall_mem_append.2 ⟨hlines₁, hlines⟩⟩
    · rw [subjectsOfAll, hrun₁]
      exact hrun
    · rw [houtput, houtput₁, List.append_assoc]

/-! ## Courses -/

/-- What a crawl of the courses collects. -/
def collected (settings : Settings) (site : Site) (quarter subject : Option String) (t : Tables) :
    Accumulator :=
  let crawler : Crawler := { site, settings, index := storedIndex t }
  (crawler.run (targets t quarter subject) {}).accumulator

/-- A graph that is saved says nothing about what a crawl collects. -/
theorem collected_afterGraph {quarter subject : Option String} (ns : List Node) (cs : List Course)
    (rs : List Relation) : collected settings site quarter subject (t.afterGraph ns cs rs) =
      collected settings site quarter subject t :=
  rfl

/-- The job for the courses ends well exactly if what it collects can be saved. -/
theorem exists_courses_iff {quarter subject : Option String} {saved : GraphSaved} {s : Session} :
    (∃ j', courses settings site quarter subject j = (j', .ok saved) ∧ j'.session = s) ↔
      ∃ t', j.session.working.saveGraph
          (collected settings site quarter subject j.session.working).nodes
          (collected settings site quarter subject j.session.working).courses
          (collected settings site quarter subject j.session.working).relations =
        .ok (t', saved) ∧ s = .on t' := by
  rw [courses, collected]
  -- What the crawl is like does not matter here.
  generalize ({ site, settings, index := storedIndex j.session.working : Crawler }.run
    (targets j.session.working quarter subject) {}) = p
  constructor
  · rintro ⟨j', h, rfl⟩
    dsimp only at h
    split at h
    next session fault hsave => cases h
    next session saved hsave =>
      cases h
      obtain ⟨t', hsaved, rfl⟩ := Session.transact_eq_ok_iff.1 hsave
      exact ⟨t', hsaved, rfl⟩
  · rintro ⟨t', hsaved, rfl⟩
    have hsave : j.session.saveGraph p.accumulator.nodes p.accumulator.courses
        p.accumulator.relations = (.on t', .ok saved) :=
      Session.transact_eq_ok_iff.2 ⟨t', hsaved, rfl⟩
    dsimp only [JobState.say]
    rw [hsave]
    exact ⟨_, rfl, rfl⟩

/-! ## All three -/

/-- A job that has run to its end on the tables of a store can be run on the tables that it left. It
ends well again, leaves them as they are, and inserts nothing: no quarters, no subject areas and
links, as it says for each quarter, and no nodes, courses and relations. -/
theorem rerun_inserts_nothing (settings : Settings) (site : Site) (quarter subject : Option String)
    (t : Tables) :
    (∀ j n, quarters settings site (.on t) = (j, .ok n) →
      ∃ t' j', j.session = .on t' ∧ quarters settings site (.on t') = (j', .ok 0) ∧
        j'.session = .on t') ∧
    (∀ j, subjects settings site (.on t) = (j, .ok ()) →
      ∃ t' j', j.session = .on t' ∧ subjects settings site (.on t') = (j', .ok ()) ∧
        j'.session = .on t' ∧ ∀ line ∈ j'.output, SaysNothingNew line) ∧
    ∀ j saved, courses settings site quarter subject (.on t) = (j, .ok saved) →
      ∃ t' j' again, j.session = .on t' ∧
        courses settings site quarter subject (.on t') = (j', .ok again) ∧ j'.session = .on t' ∧
        again.nodes.inserted = 0 ∧ again.courses.inserted = 0 ∧ again.relations.inserted = 0 := by
  refine ⟨fun j n h => ?_, fun j h => ?_, fun j saved h => ?_⟩
  · obtain ⟨found, t', hfound, hsave, hsession⟩ := exists_quarters_iff.1 ⟨j, h, rfl⟩
    obtain ⟨j', hagain, hsession'⟩ := (exists_quarters_iff (j := .on t')).2
      ⟨found, t', hfound, Tables.saveQuarters_again hsave, rfl⟩
    exact ⟨t', j', hsession, hagain, hsession'⟩
  · -- The job stores no quarters, so the next one goes through the same.
    obtain ⟨t', hsession, hext, hdone⟩ := done_of_subjectsOfAll h rfl
    have hquarters : (JobState.on t').session.working.listQuarters = t.listQuarters :=
      congrArg (fun quarters : List Quarter => ({ quarters : Tables }).listQuarters) hext.quarters
    obtain ⟨j', lines, hagain, hsession', houtput, hlines⟩ :=
      subjectsOfAll_of_done (j := .on t') hdone rfl
    refine ⟨t', j', hsession, ?_, hsession', ?_⟩
    · rw [subjects, hquarters]
      exact hagain
    · rw [houtput]
      exact hlines
  · obtain ⟨t', hsave, hsession⟩ := exists_courses_iff.1 ⟨j, h, rfl⟩
    change t.saveGraph (collected settings site quarter subject t).nodes
      (collected settings site quarter subject t).courses
      (collected settings site quarter subject t).relations = _ at hsave
    obtain ⟨-, hafter⟩ := Tables.exists_saveGraph_iff.1 ⟨saved, hsave⟩
    obtain ⟨again, hagain, hnone⟩ := Tables.exists_saveGraph_self hsave
    -- The targets and the index are the same, and so is all that a crawl collects.
    have hcollected : collected settings site quarter subject t' =
        collected settings site quarter subject t := by
      rw [hafter]
      exact collected_afterGraph _ _ _
    rw [← hcollected] at hagain
    obtain ⟨j', hrun, hsession'⟩ := (exists_courses_iff (j := .on t')).2 ⟨t', hagain, rfl⟩
    exact ⟨t', j', again, hsession, hrun, hsession', hnone⟩

/-- The site of the small schedule, with its first page broken. -/
def smallSite : Site :=
  Crawler.smallSite (.error .broken)

/-- A store with the quarter of the small schedule. -/
def quarterStore : Tables where
  quarters := [⟨"W", "Winter"⟩]

/-- A store with its subject area as well. -/
def subjectStore : Tables :=
  { quarterStore with subjects := [⟨"M", "Math"⟩], links := [⟨"W", "M"⟩] }

/-- The quarter is stored in an empty store. -/
theorem exists_quarters_smallSite :
    ∃ j, quarters Crawler.smallSettings smallSite (.on {}) = (j, .ok 1) ∧
      j.session = .on quarterStore := by
  refine exists_quarters_iff.2 ⟨[⟨"W", "Winter"⟩], quarterStore, ?_, ?_, rfl⟩
  · decide +kernel
  · decide +kernel

/-- The subject area is stored behind its quarter. -/
theorem exists_subjects_smallSite :
    ∃ j, subjects Crawler.smallSettings smallSite (.on quarterStore) = (j, .ok ()) ∧
      j.session = .on subjectStore := by
  have hquarters : quarterStore.listQuarters = [⟨"W", "Winter"⟩] := List.mergeSort_singleton _
  have hcodes : (JobState.on quarterStore).session.working.listQuarters.map Quarter.code = ["W"] :=
    congrArg (List.map Quarter.code) hquarters
  have hareas : (Crawler.smallSettings.subjectAreasQuery "W").result smallSite =
      .ok [⟨"M", "Math"⟩] := by
    decide +kernel
  rw [subjects, hcodes, subjectsOfAll, subjectsOf, hareas]
  exact ⟨_, rfl, rfl⟩

/-- What there is to collect then. -/
def smallAccumulator : Accumulator :=
  (({} : Accumulator).bindCourse Crawler.smallCourse).merge Crawler.smallGraph

/-- The courses of the small schedule are collected. -/
theorem collected_smallSite :
    collected Crawler.smallSettings smallSite none none subjectStore = smallAccumulator := by
  have htargets : targets subjectStore none none = [Crawler.smallTarget] := by
    simp [targets, Tables.listQuarters, Tables.listQuarterSubjects, Tables.listSubjects,
      subjectStore, quarterStore, Crawler.smallTarget]
  have hindex : storedIndex subjectStore = .ofPairs [(some "M", some "Math")] := by
    simp [storedIndex, Tables.listSubjects, subjectStore]
  rw [collected, htargets, hindex, Crawler.accumulator_run, List.flatMap_singleton]
  exact congrArg (List.foldl Crawler.Found.onto {}) Crawler.contribution_smallCrawler

/-- The quarter, the subject area and the courses of the small schedule are stored, and when any of
the three jobs is run again, nothing more is. -/
theorem rerun_inserts_nothing_smallSite :
    (∃ j j', quarters Crawler.smallSettings smallSite (.on {}) = (j, .ok 1) ∧
      j.session = .on quarterStore ∧
      quarters Crawler.smallSettings smallSite (.on quarterStore) = (j', .ok 0) ∧
      j'.session = .on quarterStore) ∧
    (∃ j j', subjects Crawler.smallSettings smallSite (.on quarterStore) = (j, .ok ()) ∧
      j.session = .on subjectStore ∧
      subjects Crawler.smallSettings smallSite (.on subjectStore) = (j', .ok ()) ∧
      j'.session = .on subjectStore ∧ ∀ line ∈ j'.output, SaysNothingNew line) ∧
    ∃ t j j' saved again,
      courses Crawler.smallSettings smallSite none none (.on subjectStore) = (j, .ok saved) ∧
      saved.relations.inserted = 1 ∧ j.session = .on t ∧
      courses Crawler.smallSettings smallSite none none (.on t) = (j', .ok again) ∧
      j'.session = .on t ∧ again.nodes.inserted = 0 ∧ again.courses.inserted = 0 ∧
      again.relations.inserted = 0 := by
  refine ⟨?_, ?_, ?_⟩
  · obtain ⟨j, hrun, hsession⟩ := exists_quarters_smallSite
    obtain ⟨t, j', ht, hagain, hsession'⟩ :=
      (rerun_inserts_nothing Crawler.smallSettings smallSite none none {}).1 j 1 hrun
    obtain rfl : quarterStore = t := congrArg Session.working (hsession.symm.trans ht)
    exact ⟨j, j', hrun, hsession, hagain, hsession'⟩
  · obtain ⟨j, hrun, hsession⟩ := exists_subjects_smallSite
    obtain ⟨t, j', ht, hagain, hsession', hlines⟩ :=
      (rerun_inserts_nothing Crawler.smallSettings smallSite none none quarterStore).2.1 j hrun
    obtain rfl : subjectStore = t := congrArg Session.working (hsession.symm.trans ht)
    exact ⟨j, j', hrun, hsession, hagain, hsession', hlines⟩
  · obtain ⟨t, saved, hsave, hone⟩ : ∃ t saved,
        subjectStore.saveGraph smallAccumulator.nodes smallAccumulator.courses
            smallAccumulator.relations = .ok (t, saved) ∧
          saved.relations.inserted = 1 :=
      ⟨_, _, rfl, by decide +kernel⟩
    rw [← collected_smallSite] at hsave
    obtain ⟨j, hrun, -⟩ := (exists_courses_iff (j := .on subjectStore)).2 ⟨t, hsave, rfl⟩
    obtain ⟨t', j', again, ht', hagain⟩ :=
      (rerun_inserts_nothing Crawler.smallSettings smallSite none none subjectStore).2.2 j saved
        hrun
    exact ⟨t', j, j', saved, again, hrun, hone, ht', hagain⟩

end Job

end Requisite
