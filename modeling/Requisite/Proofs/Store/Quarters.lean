import Requisite.Proofs.Numeral
import Requisite.Store.Tables

/-!
# Quarters in the order of the calendar

What the code of a quarter says is said here of its text alone: when blanks are trimmed off, it is
an integer, the year, and one more character for the term (`Quarter.Dated`). Codes of this shape
come by year and season, and before all other codes (`Quarter.Precedes`). The ranks of codes say the
same as long as no year reaches the one that stands for an unknown shape (`precedes_iff`), and they
are totally ordered, so that a stable sort by rank lists the quarters in the order of the calendar
(`listQuarters_follows_calendar`).
-/

namespace Requisite

/-! ## The calendar -/

/-- A part of the year in which there are classes. -/
inductive Season where
  | winter
  | spring
  | summer
  | fall
  /-- Any term that is none of these. -/
  | other
  deriving DecidableEq, Repr

/-- The season that the letter of a term stands for, in either case. -/
def Season.ofLetter : Char → Season
  | 'W' | 'w' => .winter
  | 'S' | 's' | 'ſ' => .spring
  | '1' => .summer
  | 'F' | 'f' => .fall
  | _ => .other

/-- How many seasons of the year come before. -/
def Season.place : Season → Nat
  | .winter => 0
  | .spring => 1
  | .summer => 2
  | .fall => 3
  | .other => 4

namespace Quarter

/-- The code is a year and a letter for the term, with blanks around them. -/
def Dated (code : String) (year : Int) (letter : Char) : Prop :=
  ∃ cs, Text.trimWhile Text.isBlank code.toList = cs ++ [letter] ∧ Text.WritesInteger cs year

/-- The first code stands before the second in the calendar. -/
inductive Precedes : String → String → Prop where
  /-- Its year is smaller. -/
  | year {a b : String} {y y' : Int} {c c' : Char} (ha : Dated a y c) (hb : Dated b y' c')
      (lt : y < y') : Precedes a b
  /-- Of one year, its season is earlier. -/
  | season {a b : String} {y : Int} {c c' : Char} (ha : Dated a y c) (hb : Dated b y c')
      (lt : (Season.ofLetter c).place < (Season.ofLetter c').place) : Precedes a b
  /-- The second code is of another shape. -/
  | known {a b : String} {y : Int} {c : Char} (ha : Dated a y c) (hb : ∀ y' c', ¬Dated b y' c') :
      Precedes a b

end Quarter

/-! ## Ranks -/

/-- The seasons are numbered from one on, and a term of no season comes far behind them. -/
theorem termOrder_eq (c : Char) :
    termOrder c = if Season.ofLetter c = .other then 9 else (Season.ofLetter c).place + 1 := by
  fun_cases Season.ofLetter c with
  | case9 => simp_all [termOrder]
  | _ => rfl

/-- The order of terms within a year is that of their seasons. -/
theorem termOrder_lt_iff {c c' : Char} :
    termOrder c < termOrder c' ↔ (Season.ofLetter c).place < (Season.ofLetter c').place := by
  rw [termOrder_eq, termOrder_eq]
  cases Season.ofLetter c <;> cases Season.ofLetter c' <;> decide

/-- No term has the number of a code without one. -/
theorem termOrder_ne_zero (c : Char) : termOrder c ≠ 0 := by
  rw [termOrder_eq]
  split
  · decide
  · exact Nat.succ_ne_zero _

namespace QuarterRank

/-- Ranks are ordered by year, and within a year by term. -/
theorem le_iff {a b : QuarterRank} :
    a.le b = true ↔ a.year < b.year ∨ (a.year = b.year ∧ a.term ≤ b.term) := by
  simp [le]

/-- The order of ranks is transitive. -/
theorem le_trans {a b c : QuarterRank} (hab : a.le b) (hbc : b.le c) : a.le c := by
  rw [le_iff] at hab hbc ⊢
  omega

/-- Of two ranks one comes before the other, or they are the same. -/
theorem le_total (a b : QuarterRank) : (a.le b || b.le a) = true := by
  rw [Bool.or_eq_true, le_iff, le_iff]
  omega

end QuarterRank

namespace Quarter

variable {a b code : String} {y y' : Int} {c c' : Char}

/-- A dated code has the rank of its year and its term. -/
theorem Dated.rank_eq (h : Dated code y c) : quarterRank code = ⟨y, termOrder c⟩ := by
  obtain ⟨cs, hcode, hyear⟩ := h
  rw [quarterRank, hcode, List.getLast?_concat, List.dropLast_concat,
    Text.integer?_eq_some_iff.2 hyear]

/-- Any other code has the unknown rank. -/
theorem rank_eq_unknown (h : ∀ y c, ¬Dated code y c) : quarterRank code = .unknown := by
  rw [quarterRank]
  split
  next term year hterm hyear =>
    obtain ⟨cs, hcs⟩ := List.getLast?_eq_some_iff.1 hterm
    rw [hcs, List.dropLast_concat, Text.integer?_eq_some_iff] at hyear
    exact absurd ⟨cs, hcs, hyear⟩ (h year term)
  next => rfl

/-- The year and the letter of a code are its own. -/
theorem Dated.unique (h : Dated code y c) (h' : Dated code y' c') : y = y' ∧ c = c' := by
  obtain ⟨cs, hcode, hyear⟩ := h
  obtain ⟨cs', hcode', hyear'⟩ := h'
  obtain ⟨rfl, hletter⟩ := List.append_inj' (hcode.symm.trans hcode') rfl
  rw [← Text.integer?_eq_some_iff] at hyear hyear'
  exact ⟨Option.some.inj (hyear.symm.trans hyear'), (List.cons.inj hletter).1⟩

/-- Only dated codes precede others. -/
theorem Precedes.dated (h : Precedes a b) : ∃ y c, Dated a y c := by
  cases h with
  | year ha => exact ⟨_, _, ha⟩
  | season ha => exact ⟨_, _, ha⟩
  | known ha => exact ⟨_, _, ha⟩

/-- Of two dated codes, the one of the smaller year precedes, or that of the earlier term. -/
theorem Dated.precedes_iff (ha : Dated a y c) (hb : Dated b y' c') :
    Precedes a b ↔ y < y' ∨ (y = y' ∧ termOrder c < termOrder c') := by
  constructor
  · intro h
    cases h with
    | year ha' hb' lt =>
      obtain ⟨rfl, -⟩ := ha.unique ha'
      obtain ⟨rfl, -⟩ := hb.unique hb'
      exact .inl lt
    | season ha' hb' lt =>
      obtain ⟨rfl, rfl⟩ := ha.unique ha'
      obtain ⟨rfl, rfl⟩ := hb.unique hb'
      exact .inr ⟨rfl, termOrder_lt_iff.2 lt⟩
    | known ha' hb' => exact absurd hb (hb' _ _)
  · rintro (hlt | ⟨rfl, hlt⟩)
    · exact .year ha hb hlt
    · exact .season ha hb (termOrder_lt_iff.1 hlt)

/-- The calendar is that of the ranks, where no year reaches that of the unknown rank. -/
theorem precedes_iff (ha : ∀ y c, Dated a y c → y < 1000000)
    (hb : ∀ y c, Dated b y c → y < 1000000) :
    Precedes a b ↔ ¬(quarterRank b).le (quarterRank a) := by
  by_cases hdated : ∃ y c, Dated a y c
  · obtain ⟨y, c, hdated⟩ := hdated
    have hyear := ha y c hdated
    by_cases hother : ∃ y c, Dated b y c
    · obtain ⟨y', c', hother⟩ := hother
      rw [hdated.precedes_iff hother, hdated.rank_eq, hother.rank_eq, QuarterRank.le_iff]
      dsimp only
      omega
    · have hnone : ∀ y c, ¬Dated b y c := fun y c h => hother ⟨y, c, h⟩
      refine iff_of_true (.known hdated hnone) ?_
      rw [hdated.rank_eq, rank_eq_unknown hnone, QuarterRank.le_iff, QuarterRank.unknown]
      dsimp only
      omega
  · refine iff_of_false (fun h => hdated h.dated) fun hnot => hnot ?_
    rw [rank_eq_unknown fun y c h => hdated ⟨y, c, h⟩, QuarterRank.le_iff]
    by_cases hother : ∃ y c, Dated b y c
    · obtain ⟨y, c, hother⟩ := hother
      rw [hother.rank_eq]
      exact .inl (hb y c hother)
    · rw [rank_eq_unknown fun y c h => hother ⟨y, c, h⟩]
      exact .inr ⟨rfl, Nat.le_refl _⟩

end Quarter

namespace Tables

/-! ## The listing -/

/-- Where no year reaches a million, every stored quarter is listed once, none behind one that it
precedes, and those that stand in the store in an order which the calendar allows keep this order:
above all those of which neither precedes the other. -/
theorem listQuarters_follows_calendar (t : Tables)
    (h : ∀ q ∈ t.quarters, ∀ year letter, Quarter.Dated q.code year letter → year < 1000000) :
    t.listQuarters.Perm t.quarters ∧
      t.listQuarters.Pairwise (fun q q' => ¬Quarter.Precedes q'.code q.code) ∧
      ∀ q q', [q, q'].Sublist t.quarters → ¬Quarter.Precedes q'.code q.code →
        [q, q'].Sublist t.listQuarters := by
  have htrans (q q' q'' : Quarter) :
      (quarterRank q.code).le (quarterRank q'.code) →
        (quarterRank q'.code).le (quarterRank q''.code) →
          (quarterRank q.code).le (quarterRank q''.code) :=
    QuarterRank.le_trans
  have htotal (q q' : Quarter) :
      ((quarterRank q.code).le (quarterRank q'.code) ||
        (quarterRank q'.code).le (quarterRank q.code)) = true :=
    QuarterRank.le_total _ _
  -- For stored quarters, not to be preceded is to be of at most the same rank.
  have hle {q q' : Quarter} (hq : q ∈ t.quarters) (hq' : q' ∈ t.quarters) :
      ¬Quarter.Precedes q'.code q.code ↔ (quarterRank q.code).le (quarterRank q'.code) := by
    rw [Quarter.precedes_iff (h q' hq') (h q hq), Classical.not_not]
  have hperm : t.listQuarters.Perm t.quarters := List.mergeSort_perm _ _
  refine ⟨hperm, ?_, fun q q' hpair hnot => ?_⟩
  · have hsorted : t.listQuarters.Pairwise fun q q' =>
        (quarterRank q.code).le (quarterRank q'.code) :=
      List.pairwise_mergeSort htrans htotal _
    refine hsorted.imp_of_mem fun hq hq' hrank => ?_
    exact (hle (hperm.mem_iff.1 hq) (hperm.mem_iff.1 hq')).2 hrank
  · have hq : q ∈ t.quarters := hpair.subset List.mem_cons_self
    have hq' : q' ∈ t.quarters := hpair.subset (List.mem_cons_of_mem _ List.mem_cons_self)
    exact List.pair_sublist_mergeSort htrans htotal ((hle hq hq').1 hnot) hpair

/-- A store with two codes for one winter, the fall after it, and a code without a year. -/
def mixedQuarters : Tables where
  quarters := [⟨"24F", "Fall"⟩, ⟨"F", "Any fall"⟩, ⟨"2_4w", "Winter"⟩, ⟨" ٢٤W", "The same winter"⟩]

/-- The winter comes first, by both codes in the order of the store. -/
theorem listQuarters_follows_calendar_mixedQuarters :
    (∀ q ∈ mixedQuarters.quarters, ∀ year letter, Quarter.Dated q.code year letter →
      year < 1000000) ∧
      mixedQuarters.listQuarters.Perm mixedQuarters.quarters ∧
      mixedQuarters.listQuarters.Pairwise (fun q q' => ¬Quarter.Precedes q'.code q.code) ∧
      Quarter.Precedes "2_4w" "24F" ∧ Quarter.Precedes "24F" "F" ∧
      [⟨"2_4w", "Winter"⟩, ⟨" ٢٤W", "The same winter"⟩].Sublist mixedQuarters.listQuarters := by
  have hranks : ∀ q ∈ mixedQuarters.quarters,
      (quarterRank q.code).term ≠ 0 → (quarterRank q.code).year < 1000000 := by
    decide
  have hyears : ∀ q ∈ mixedQuarters.quarters, ∀ year letter, Quarter.Dated q.code year letter →
      year < 1000000 := by
    intro q hq year letter hdated
    have hrank := hranks q hq
    rw [hdated.rank_eq] at hrank
    exact hrank (termOrder_ne_zero letter)
  have hwinter := hyears ⟨"2_4w", "Winter"⟩ (by decide)
  have hsame := hyears ⟨" ٢٤W", "The same winter"⟩ (by decide)
  have hfall := hyears ⟨"24F", "Fall"⟩ (by decide)
  have hunknown := hyears ⟨"F", "Any fall"⟩ (by decide)
  obtain ⟨hperm, hsorted, hstable⟩ := listQuarters_follows_calendar mixedQuarters hyears
  refine ⟨hyears, hperm, hsorted, ?_, ?_, hstable _ _ ?_ fun hprecedes => ?_⟩
  · exact (Quarter.precedes_iff hwinter hfall).2 (by decide)
  · exact (Quarter.precedes_iff hfall hunknown).2 (by decide)
  · exact .cons _ (.cons _ (.refl _))
  · exact absurd ((Quarter.precedes_iff hsame hwinter).1 hprecedes) (by decide)

end Tables

end Requisite
