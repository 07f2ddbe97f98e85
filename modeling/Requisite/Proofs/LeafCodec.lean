import Mathlib.Data.Set.Function
import Requisite.Proofs.Leaf

/-!
# Writing and reading a leaf

Reading looks for the braces of a block from both ends of a text, and then at its characters one by
one; writing puts them there. They fit: a text is read as a leaf exactly if the leaf can be written,
since it has an id and no opening brace in it, and the text is what is written for it
(`Leaf.decode_eq_ok_iff`). So `Leaf.encode` is a bijection between the leaves that can be written
and the texts that are read, whatever the grade, and the five reasons for which a text is refused
miss no text and catch none too many (`Leaf.codec_bijective`).
-/

namespace Requisite

/-- A character is read as a flag exactly if it is what is written for the flag. -/
theorem readFlag_eq_ok {c : Char} {b : Bool} : readFlag c = .ok b ↔ flagChar b = c := by
  constructor
  · intro h
    unfold readFlag at h
    split at h
    · cases h
      exact Eq.symm ‹_›
    · split at h
      · cases h
        exact Eq.symm ‹_›
      · cases h
  · rintro rfl
    exact readFlag_flagChar b

/-- The inside of a block is read as flags exactly if it is what is written for them. -/
theorem Flags.decode_eq_ok_iff {block : List Char} {f : Flags} :
    Flags.decode block = .ok f ↔ f.encode = block := by
  constructor
  · intro h
    unfold Flags.decode at h
    split at h
    · simp only [bind, bind_eq_ok, readFlag_eq_ok] at h
      obtain ⟨a, rfl, b, rfl, c, rfl, d, rfl, hf⟩ := h
      cases hf
      simp [Flags.encode]
    · cases h
  · rintro rfl
    exact Flags.decode_encode f

/-- The leaf can be written: its id has a character and no opening brace. Its flags and its grade do
not matter. -/
structure Leaf.Writable (l : Leaf) : Prop where
  named : l.id ≠ ""
  noStart : blockStart ∉ l.id.toList

/-- A text is read as a leaf exactly if the leaf can be written, and the text is what is written for
it. -/
theorem Leaf.decode_eq_ok_iff {text : String} {l : Leaf} :
    Leaf.decode text = .ok l ↔ l.Writable ∧ l.encode = text := by
  constructor
  · intro h
    obtain ⟨block, htext, hne, hid, hflags⟩ := Leaf.decode_eq_ok h
    refine ⟨⟨by simpa using hne, hid⟩, ?_⟩
    rw [Leaf.encode, Flags.decode_eq_ok_iff.1 hflags, ← htext, String.ofList_toList]
  · rintro ⟨hl, rfl⟩
    exact Leaf.decode_encode (by simpa using hl.named) hl.noStart

/-- Writing is a bijection between the leaves that can be written and the texts that are read as a
leaf, and reading is its inverse. Every other text is refused. -/
theorem Leaf.codec_bijective :
    Set.BijOn Leaf.encode {l | l.Writable} {text | ∃ l, Leaf.decode text = .ok l} ∧
      (∀ text l, Leaf.decode text = .ok l ↔ l.Writable ∧ l.encode = text) ∧
      ∀ text, (∃ fault, Leaf.decode text = .error fault) ↔
        text ∉ Set.image Leaf.encode {l | l.Writable} := by
  have himage (text : String) :
      (∃ l, Leaf.decode text = .ok l) ↔ text ∈ Set.image Leaf.encode {l | l.Writable} :=
    exists_congr fun l => Leaf.decode_eq_ok_iff
  refine ⟨⟨?_, ?_, ?_⟩, fun text l => Leaf.decode_eq_ok_iff, fun text => ?_⟩
  · intro l hl
    exact ⟨l, Leaf.decode_eq_ok_iff.2 ⟨hl, rfl⟩⟩
  · -- Two leaves that are written alike are read from one text.
    intro l hl l' hl' heq
    have hread : Leaf.decode l.encode = .ok l := Leaf.decode_eq_ok_iff.2 ⟨hl, rfl⟩
    have hread' : Leaf.decode l.encode = .ok l' := Leaf.decode_eq_ok_iff.2 ⟨hl', heq.symm⟩
    exact Except.ok.inj (hread.symm.trans hread')
  · intro text htext
    exact (himage text).1 htext
  · rw [← himage]
    cases Leaf.decode text with
    | ok l => simp
    | error fault => simp

/-- The grade may hold braces, also closing ones, and the id closing ones. -/
example : Leaf.decode "A\x7d#1\x7btfft\x7bC\x7d-\x7d" =
    .ok ⟨"A\x7d#1", true, false, false, true, "\x7bC\x7d-"⟩ := by
  decide

end Requisite
