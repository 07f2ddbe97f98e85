import Requisite.Proofs.Outcome
import Requisite.Proofs.Segments

/-!
# What a written leaf says

A text that writes a leaf is its id, which has a character and no opening brace, and a block in
braces that says the flags. In a whole leaf of an expression the id therefore begins as the leaf
does, with no bracket and no connective.
-/

namespace Requisite

/-- A text that writes a leaf is the id, a block that says the flags, and the braces around it. -/
theorem Leaf.decode_eq_ok {text : String} {l : Leaf} (h : Leaf.decode text = .ok l) :
    ∃ block, text.toList = l.id.toList ++ blockStart :: (block ++ [blockEnd]) ∧
      l.id.toList ≠ [] ∧ blockStart ∉ l.id.toList ∧ Flags.decode block = .ok l.flags := by
  unfold Leaf.decode at h
  split at h
  · simp at h
  next id rest hcut =>
    obtain ⟨htext, hid⟩ := Text.cut?_eq_some hcut
    split at h
    · simp at h
    next hempty =>
      split at h
      next hlast =>
        obtain ⟨flags, hflags, rfl⟩ := map_eq_ok.1 h
        obtain ⟨block, rfl⟩ := List.getLast?_eq_some_iff.1 hlast
        rw [List.dropLast_concat] at hflags
        refine ⟨block, ?_, ?_, ?_, hflags⟩
        · rw [htext, String.toList_ofList]
        · simpa using hempty
        · rwa [String.toList_ofList]
      · simp at h

/-- A leaf that is named by more than nothing and without an opening brace is read back. -/
theorem Leaf.decode_encode {l : Leaf} (hne : l.id.toList ≠ []) (hid : blockStart ∉ l.id.toList) :
    Leaf.decode l.encode = .ok l := by
  have hcut : Text.cut? [blockStart] l.encode.toList =
      some (l.id.toList, l.flags.encode ++ [blockEnd]) := by
    rw [Leaf.encode, String.toList_ofList]
    exact Text.cut?_append hid _
  unfold Leaf.decode
  rw [hcut]
  simp [hne, Except.map]

/-- The id of the node of a course has a number sign between subject area and catalog number. -/
theorem toList_courseNodeId (subject catalog : String) :
    (courseNodeId subject catalog).toList = subject.toList ++ '#' :: catalog.toList := by
  simp [courseNodeId]

/-- The node of a course says its subject area and its catalog number, if no number sign is in the
code of the subject area. -/
theorem courseNodeId_injective {subject subject' catalog catalog' : String}
    (h : '#' ∉ subject.toList) (h' : '#' ∉ subject'.toList)
    (heq : courseNodeId subject catalog = courseNodeId subject' catalog') :
    subject = subject' ∧ catalog = catalog' := by
  have hcut := Text.cut?_append h catalog.toList
  rw [← toList_courseNodeId, heq, toList_courseNodeId, Text.cut?_append h'] at hcut
  obtain ⟨hsubject, hcatalog⟩ := Prod.mk.inj (Option.some.inj hcut)
  exact ⟨(String.toList_inj.1 hsubject).symm, (String.toList_inj.1 hcatalog).symm⟩

/-- A course that a leaf names has the id of the leaf as its node, and no number sign in the code of
its subject area. -/
theorem Leaf.course?_eq_some {l : Leaf} {c : Course} (h : l.course? = some c) :
    c.nodeId = l.id ∧ '#' ∉ c.subject.toList := by
  unfold Leaf.course? at h
  split at h
  · split at h
    next subject catalog hcut =>
      obtain ⟨hid, hsubject⟩ := Text.cut?_eq_some hcut
      split at h
      · simp at h
      · obtain rfl := by simpa using h
        constructor
        · rw [← String.toList_inj, hid]
          simp [Course.nodeId, courseNodeId]
        · rwa [String.toList_ofList]
    · simp at h
  · simp at h

/-- A leaf that is marked as a course names the course of its id, if no number sign is in the code
of the subject area. -/
theorem Leaf.course?_of_id_eq {l : Leaf} {code catalog : String} (hcourse : l.flags.isCourse = true)
    (hid : l.id = courseNodeId code catalog) (hsign : '#' ∉ code.toList) (hcode : code ≠ "")
    (hcatalog : catalog ≠ "") : l.course? = some { subject := code, catalog := catalog } := by
  have hcut : Text.cut? ['#'] l.id.toList = some (code.toList, catalog.toList) := by
    rw [hid, toList_courseNodeId]
    exact Text.cut?_append hsign _
  unfold Leaf.course?
  rw [if_pos hcourse, hcut]
  simp [hcode, hcatalog]

/-- The leaf that says nothing besides its id. -/
def Leaf.bare (id : String) : Leaf :=
  ⟨id, { isCourse := false, isEnforced := false, isPrereq := false, isCoreq := false,
         minimumGrade := "" }⟩

/-- The id begins with no bracket and no connective. -/
def PlainStart (id : String) : Prop :=
  ∀ c ∈ id.toList.head?, structural? c = none

/-- The leaf is named by more than nothing, and its id begins with no bracket and no connective. -/
def Leaf.StartsPlain (l : Leaf) : Prop :=
  ∃ c cs, l.id.toList = c :: cs ∧ structural? c = none

/-- The id of such a leaf begins so. -/
theorem Leaf.StartsPlain.plainStart {l : Leaf} (h : l.StartsPlain) : PlainStart l.id := by
  obtain ⟨c, cs, hid, hc⟩ := h
  intro c' hc'
  rw [hid] at hc'
  obtain rfl : c = c' := by simpa using hc'
  exact hc

/-- A whole leaf of an expression names itself so. -/
theorem Leaf.startsPlain_of_decode {text : String} {l : Leaf} (h : LeafText text.toList)
    (hl : Leaf.decode text = .ok l) : l.StartsPlain := by
  obtain ⟨block, htext, hne, -, -⟩ := Leaf.decode_eq_ok hl
  obtain ⟨c, cs, hid⟩ := List.exists_cons_of_ne_nil hne
  refine ⟨c, cs, hid, ?_⟩
  rw [htext, hid] at h
  -- The first character of the id is that of the whole leaf.
  generalize hcs : c :: cs ++ blockStart :: (block ++ [blockEnd]) = text at h
  obtain ⟨hfirst, -, -⟩ := h
  rw [List.cons_append, List.cons.injEq] at hcs
  rw [hcs.1]
  assumption

end Requisite
