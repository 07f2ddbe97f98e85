/-!
# Cutting and replacing text

Cutting at the first or the last occurrence of a separator, and replacing occurrences of a word.
Cutting loses nothing: the two parts and the separator are the text again.
-/

namespace Requisite.Text

/-- The parts before and after the first occurrence of `sep`, or `none` without one. -/
def cut? (sep : List Char) : List Char → Option (List Char × List Char)
  | [] => if sep.isEmpty then some ([], []) else none
  | c :: cs =>
    match sep.isPrefixOf? (c :: cs) with
    | some after => some ([], after)
    | none => (cut? sep cs).map fun (before, after) => (c :: before, after)

/-- The parts before and after the last occurrence of the character `sep`, or `none` without
one. -/
def cutLast? (sep : Char) : List Char → Option (List Char × List Char)
  | [] => none
  | c :: cs =>
    match cutLast? sep cs with
    | some (before, after) => some (c :: before, after)
    | none => if c = sep then some ([], cs) else none

/-- The part before `ending`, or `none` where the text does not end so. -/
def dropEnding? (ending cs : List Char) : Option (List Char) :=
  (ending.reverse.isPrefixOf? cs.reverse).map List.reverse

/-- The text with the first occurrence of `old` written as `new`. -/
def replaceFirst (old new cs : List Char) : List Char :=
  match cut? old cs with
  | some (before, after) => before ++ new ++ after
  | none => cs

/-- The text with every occurrence of the non-empty word `head :: tail` written as `new`, found
from the left and without overlap. `skip` counts the characters of an occurrence still to pass. -/
def replaceAllFrom (head : Char) (tail new : List Char) : Nat → List Char → List Char
  | _, [] => []
  | skip + 1, _ :: cs => replaceAllFrom head tail new skip cs
  | 0, c :: cs =>
    if (head :: tail).isPrefixOf (c :: cs) then
      new ++ replaceAllFrom head tail new tail.length cs
    else
      c :: replaceAllFrom head tail new 0 cs

/-- The text with every occurrence of `old` written as `new`; an empty `old` replaces nothing. -/
def replaceAll (old new cs : List Char) : List Char :=
  match old with
  | [] => cs
  | head :: tail => replaceAllFrom head tail new 0 cs

/-- A text begins with one character exactly when that is its first. -/
theorem isPrefixOf?_singleton (sep c : Char) (cs : List Char) :
    [sep].isPrefixOf? (c :: cs) = if sep = c then some cs else none := by
  have hfirst : [sep].isPrefixOf? (c :: cs) = if sep == c then some cs else none := rfl
  rw [hfirst]
  simp

/-- At a separator character, the parts of a cut are the text again, and the part before it has
none. -/
theorem cut?_eq_some {sep : Char} {cs before after : List Char}
    (h : cut? [sep] cs = some (before, after)) : cs = before ++ sep :: after ∧ sep ∉ before := by
  induction cs generalizing before with
  | nil => simp [cut?] at h
  | cons c cs ih =>
    rw [cut?, isPrefixOf?_singleton] at h
    by_cases hc : sep = c
    · have hcut : ([] : List Char) = before ∧ cs = after := by simpa [hc] using h
      obtain ⟨rfl, rfl⟩ := hcut
      exact ⟨by rw [hc]; rfl, List.not_mem_nil⟩
    · rw [if_neg hc] at h
      obtain ⟨⟨before', after'⟩, hcut, hparts⟩ := Option.map_eq_some_iff.1 h
      obtain ⟨rfl, rfl⟩ := by simpa using hparts
      obtain ⟨rfl, hbefore⟩ := ih hcut
      exact ⟨rfl, by simp [hc, hbefore]⟩

/-- A text is cut at its first separator character. -/
theorem cut?_append {sep : Char} {before : List Char} (h : sep ∉ before) (after : List Char) :
    cut? [sep] (before ++ sep :: after) = some (before, after) := by
  induction before with
  | nil => rw [List.nil_append, cut?, isPrefixOf?_singleton, if_pos rfl]
  | cons c before ih =>
    obtain ⟨hc, hbefore⟩ := not_or.1 (mt List.mem_cons.2 h)
    rw [List.cons_append, cut?, isPrefixOf?_singleton, if_neg hc, ih hbefore]
    rfl

/-- Without the separator character, there is nothing to cut. -/
theorem cutLast?_eq_none_iff {sep : Char} {cs : List Char} :
    cutLast? sep cs = none ↔ sep ∉ cs := by
  induction cs with
  | nil => simp [cutLast?]
  | cons c cs ih =>
    rw [cutLast?]
    cases h : cutLast? sep cs with
    | none =>
      have hcs : sep ∉ cs := ih.1 h
      by_cases hc : c = sep
      · simp [hc]
      · simp [hc, hcs, Ne.symm hc]
    | some p => simp_all

/-- The parts of a cut at the last separator are the text again, and the part after it has none. -/
theorem cutLast?_eq_some {sep : Char} {cs before after : List Char}
    (h : cutLast? sep cs = some (before, after)) : cs = before ++ sep :: after ∧ sep ∉ after := by
  induction cs generalizing before with
  | nil => simp [cutLast?] at h
  | cons c cs ih =>
    rw [cutLast?] at h
    split at h
    next before' after' hcut =>
      obtain ⟨rfl, rfl⟩ := by simpa using h
      obtain ⟨hcs, hafter⟩ := ih hcut
      exact ⟨by rw [hcs]; rfl, hafter⟩
    next hcut =>
      split at h
      · obtain ⟨rfl, rfl⟩ := by simpa using h
        subst_vars
        exact ⟨rfl, cutLast?_eq_none_iff.1 hcut⟩
      · simp at h

/-- A text is cut at its last separator character. -/
theorem cutLast?_append {sep : Char} {after : List Char} (h : sep ∉ after) (before : List Char) :
    cutLast? sep (before ++ sep :: after) = some (before, after) := by
  induction before with
  | nil => rw [List.nil_append, cutLast?, cutLast?_eq_none_iff.2 h, if_pos rfl]
  | cons c before ih => rw [List.cons_append, cutLast?, ih]

end Requisite.Text
