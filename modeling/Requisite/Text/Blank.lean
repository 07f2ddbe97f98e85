/-!
# Blank characters and trimming

Which characters count as blank, and how text loses characters of a class at its two ends. The
functions work on lists of characters; `trim` is their use on strings.
-/

namespace Requisite.Text

/-- The blank characters: the separators of lines and words, of every width, and the controls that
separate fields. Marks of zero width are not blank. -/
def isBlank (c : Char) : Bool :=
  let n := c.toNat
  (0x09 ≤ n && n ≤ 0x0D) || (0x1C ≤ n && n ≤ 0x20) || n == 0x85 || n == 0xA0 || n == 0x1680 ||
    (0x2000 ≤ n && n ≤ 0x200A) || n == 0x2028 || n == 0x2029 || n == 0x202F || n == 0x205F ||
    n == 0x3000

/-- The characters without the longest end part that lies in `p`. -/
def dropRightWhile (p : Char → Bool) (cs : List Char) : List Char :=
  (cs.reverse.dropWhile p).reverse

/-- The characters without the parts in `p` at both ends. -/
def trimWhile (p : Char → Bool) (cs : List Char) : List Char :=
  dropRightWhile p (cs.dropWhile p)

/-- The text without the blanks at its two ends. -/
def trim (s : String) : String :=
  String.ofList (trimWhile isBlank s.toList)

/-- What is left after the end is dropped, and the end, are the text. -/
theorem dropRightWhile_append_takeWhile (p : Char → Bool) (cs : List Char) :
    dropRightWhile p cs ++ (cs.reverse.takeWhile p).reverse = cs := by
  rw [dropRightWhile, ← List.reverse_append, List.takeWhile_append_dropWhile, List.reverse_reverse]

/-- What is dropped at the end lies in the class: it is put back by some list of such
characters. -/
theorem exists_append_dropRightWhile (p : Char → Bool) (cs : List Char) :
    ∃ t : List Char, dropRightWhile p cs ++ t = cs ∧ ∀ c ∈ t, p c := by
  refine ⟨_, dropRightWhile_append_takeWhile p cs, fun c hc => ?_⟩
  exact List.all_eq_true.1 List.all_takeWhile c (List.mem_reverse.1 hc)

/-- Trimming cuts a text out between two parts that lie in the class. -/
theorem exists_append_trimWhile (p : Char → Bool) (cs : List Char) :
    ∃ before after, before ++ trimWhile p cs ++ after = cs ∧ (∀ c ∈ before, p c) ∧
      ∀ c ∈ after, p c := by
  obtain ⟨after, hafter, hall⟩ := exists_append_dropRightWhile p (cs.dropWhile p)
  refine ⟨cs.takeWhile p, after, ?_, List.all_eq_true.1 List.all_takeWhile, hall⟩
  rw [trimWhile, List.append_assoc, hafter, List.takeWhile_append_dropWhile]

section

variable {p : Char → Bool} {cs : List Char} {c : Char}

/-- What stands in the class before a text and after it is trimmed off with its ends. -/
theorem trimWhile_append {before after : List Char} (hbefore : ∀ c ∈ before, p c)
    (hafter : ∀ c ∈ after, p c) : trimWhile p (before ++ cs ++ after) = trimWhile p cs := by
  have hreverse : ∀ c ∈ after.reverse, p c := fun c hc => hafter c (List.mem_reverse.1 hc)
  have hnone : after.dropWhile p = [] := by
    rw [← List.append_nil after, List.dropWhile_append_of_pos hafter, List.dropWhile_nil]
  rw [trimWhile, trimWhile, List.append_assoc, List.dropWhile_append_of_pos hbefore,
    List.dropWhile_append]
  by_cases hleft : cs.dropWhile p = []
  · rw [if_pos (by simpa using hleft), hnone, hleft]
  · rw [if_neg (by simpa using hleft), dropRightWhile, dropRightWhile, List.reverse_append,
      List.dropWhile_append_of_pos hreverse]

/-- What is left after trimming ends in no character of the class. -/
theorem getLast?_trimWhile (hc : c ∈ (trimWhile p cs).getLast?) : p c = false := by
  rw [trimWhile, dropRightWhile, List.getLast?_reverse, Option.mem_def] at hc
  have hfirst := List.head?_dropWhile_not p (cs.dropWhile p).reverse
  rw [hc] at hfirst
  exact Bool.eq_false_iff.2 (by simpa using hfirst)

/-- Where a text neither begins nor ends with a character of the class, nothing is trimmed off. -/
theorem trimWhile_eq_self (hfirst : ∀ c ∈ cs.head?, p c = false)
    (hlast : ∀ c ∈ cs.getLast?, p c = false) : trimWhile p cs = cs := by
  have hdrop {ds : List Char} (hds : ∀ c ∈ ds.head?, p c = false) : ds.dropWhile p = ds := by
    cases ds with
    | nil => rfl
    | cons d ds => exact List.dropWhile_cons_of_neg (by simp [hds d rfl])
  have hreverse : ∀ c ∈ cs.reverse.head?, p c = false := by rwa [List.head?_reverse]
  rw [trimWhile, hdrop hfirst, dropRightWhile, hdrop hreverse, List.reverse_reverse]

end

end Requisite.Text
