import Requisite.Proofs.Expr.Automaton
import Requisite.Proofs.Rows.Tokens

/-!
# Which rows compile

The rows of a course page are encoded one by one, and nothing checks that they fit together.
`ofText_encodeAll` says when they do: the graph of their text exists exactly when each row but the
last has a connective, the last has none, and the brackets are balanced when they are counted row
by row (`Row.Balanced`). Otherwise a token is blamed for where it stands, and never a leaf.

The counting is that of the automaton. A row leads from a wanted operand to a wanted or a complete
one, according to its connective, at the depth that its brackets leave (`run_row`), unless it closes
more brackets than are open (`run_row_overclosed`). So a run over all rows follows the depth from
row to row (`run_rows`).
-/

namespace Requisite

/-- A token stands where it may not. -/
def ExprFault.Misplaced (f : ExprFault) : Prop :=
  (∃ expected t, f = .unexpectedToken expected t) ∨ ∃ t, f = .unconsumedInput t

namespace Row

/-! ## Rows that fit together -/

/-- How many more brackets the rows open than they close. -/
def depth : List Row → Int
  | [] => 0
  | row :: rows => row.parts.opening - row.parts.closing + depth rows

/-- The rows, which stand within `opened` brackets, write one expression and close these
brackets. -/
structure Balanced (opened : Nat) (rows : List Row) : Prop where
  /-- Every row but the last has a connective to the next one. -/
  joined : ∀ row ∈ rows.dropLast, row.parts.connective ≠ none
  /-- The last row has none. -/
  ended : ∀ row ∈ rows.getLast?, row.parts.connective = none
  /-- No row closes more brackets than are open by then. -/
  nonneg : ∀ i, 0 ≤ opened + depth (rows.take i)
  /-- No bracket is left open. -/
  closed : opened + depth rows = 0

/-- No rows open no bracket. -/
theorem depth_nil : depth [] = 0 :=
  rfl

/-- The depth of several rows is that of the first and of the others. -/
theorem depth_cons (row : Row) (rows : List Row) :
    depth (row :: rows) = (row.parts.opening : Int) - row.parts.closing + depth rows :=
  rfl

/-- No rows fit where no bracket is open. -/
theorem balanced_nil {opened : Nat} : Balanced opened [] ↔ opened = 0 := by
  constructor
  · intro h
    have hclosed := h.closed
    rw [depth_nil] at hclosed
    omega
  · rintro rfl
    refine ⟨by simp, by simp, fun i => ?_, rfl⟩
    rw [List.take_nil, depth_nil]
    omega

/-- One row fits if it has no connective and closes just what is open. -/
theorem balanced_singleton {opened : Nat} {row : Row} :
    Balanced opened [row] ↔
      row.parts.connective = none ∧ opened + row.parts.opening = row.parts.closing := by
  have hdepth : depth [row] = (row.parts.opening : Int) - row.parts.closing := by
    rw [depth_cons, depth_nil, Int.add_zero]
  constructor
  · intro h
    have hclosed := h.closed
    rw [hdepth] at hclosed
    exact ⟨h.ended row rfl, by omega⟩
  · rintro ⟨hnone, hclosed⟩
    refine ⟨by simp, by simpa using hnone, fun i => ?_, by rw [hdepth]; omega⟩
    cases i with
    | zero =>
      rw [List.take_zero, depth_nil]
      omega
    | succ i =>
      rw [List.take_succ_cons, List.take_nil, hdepth]
      omega

/-- Several rows fit if the first has a connective and closes no more than is open, and the others
fit within the brackets that it leaves open. -/
theorem balanced_cons_cons {opened : Nat} {row next : Row} {rows : List Row} :
    Balanced opened (row :: next :: rows) ↔
      row.parts.connective ≠ none ∧ row.parts.closing ≤ opened + row.parts.opening ∧
        Balanced (opened + row.parts.opening - row.parts.closing) (next :: rows) := by
  constructor
  · intro h
    have hle : row.parts.closing ≤ opened + row.parts.opening := by
      have hfirst := h.nonneg 1
      rw [List.take_succ_cons, List.take_zero, depth_cons, depth_nil] at hfirst
      omega
    refine ⟨h.joined row (by simp), hle, ?_⟩
    constructor
    · intro row' hrow'
      exact h.joined row' (by rw [List.dropLast_cons_cons]; exact List.mem_cons_of_mem _ hrow')
    · intro row' hrow'
      exact h.ended row' (by rwa [List.getLast?_cons_cons])
    · intro i
      have hi := h.nonneg (i + 1)
      rw [List.take_succ_cons, depth_cons] at hi
      omega
    · have hclosed := h.closed
      rw [depth_cons] at hclosed
      omega
  · rintro ⟨hsome, hle, h⟩
    constructor
    · intro row' hrow'
      rw [List.dropLast_cons_cons, List.mem_cons] at hrow'
      rcases hrow' with rfl | hrow'
      · exact hsome
      · exact h.joined row' hrow'
    · intro row' hrow'
      exact h.ended row' (by rwa [List.getLast?_cons_cons] at hrow')
    · intro i
      cases i with
      | zero =>
        rw [List.take_zero, depth_nil]
        omega
      | succ i =>
        have hi := h.nonneg i
        rw [List.take_succ_cons, depth_cons]
        omega
    · have hclosed := h.closed
      rw [depth_cons]
      omega

/-- Whether rows fit together can be decided row by row. -/
instance decidableBalanced : (opened : Nat) → (rows : List Row) → Decidable (Balanced opened rows)
  | _, [] => decidable_of_iff _ balanced_nil.symm
  | _, [_] => decidable_of_iff _ balanced_singleton.symm
  | opened, row :: next :: rows =>
    have : Decidable (Balanced (opened + row.parts.opening - row.parts.closing) (next :: rows)) :=
      decidableBalanced _ _
    decidable_of_iff _ balanced_cons_cons.symm

end Row

namespace Automaton

/-! ## Brackets -/

/-- Opening brackets lead deeper. -/
theorem run_opening {us : List Token} (h : ∀ u ∈ us, u.kind = .leftParen) (depth : Nat)
    (ts : List Token) : run (.wanted depth) (us ++ ts) = run (.wanted (depth + us.length)) ts := by
  induction us generalizing depth with
  | nil => rfl
  | cons u us ih =>
    have hstep : step (.wanted depth) u = .ok (some (.wanted (depth + 1))) := by
      simp [step, h u List.mem_cons_self]
    have hdepth : depth + (u :: us).length = depth + 1 + us.length := by
      rw [List.length_cons]
      omega
    rw [List.cons_append, run_cons_of_next hstep, hdepth]
    exact ih (fun v hv => h v (List.mem_cons_of_mem _ hv)) (depth + 1)

/-- Closing brackets lead out, as long as some are open. -/
theorem run_closing {us : List Token} (h : ∀ u ∈ us, u.kind = .rightParen) {depth : Nat}
    (hle : us.length ≤ depth) (ts : List Token) :
    run (.complete depth) (us ++ ts) = run (.complete (depth - us.length)) ts := by
  induction us generalizing depth with
  | nil => rfl
  | cons u us ih =>
    rw [List.length_cons] at hle ⊢
    obtain ⟨inner, rfl⟩ : ∃ inner, depth = inner + 1 := ⟨depth - 1, by omega⟩
    have hdepth : inner + 1 - (us.length + 1) = inner - us.length := by omega
    rw [List.cons_append, run_cons_of_next (step_complete_rightParen (h u List.mem_cons_self)),
      hdepth]
    exact ih (fun v hv => h v (List.mem_cons_of_mem _ hv)) (by omega)

/-- The first closing bracket for which none is open is refused. -/
theorem run_overclosing {us : List Token} (h : ∀ u ∈ us, u.kind = .rightParen) {depth : Nat}
    (hlt : depth < us.length) (ts : List Token) :
    ∃ t, run (.complete depth) (us ++ ts) = some (.error (.unconsumedInput t)) := by
  induction us generalizing depth with
  | nil => simp at hlt
  | cons u us ih =>
    have hu := h u List.mem_cons_self
    cases depth with
    | zero =>
      exact ⟨u, run_cons_of_error
        (step_complete_outside (by simp [hu, Nonterminal.goesOn]) (by simp [hu])) _⟩
    | succ depth =>
      rw [List.cons_append, run_cons_of_next (step_complete_rightParen hu)]
      exact ih (fun v hv => h v (List.mem_cons_of_mem _ hv)) (by simpa using hlt)

/-! ## Rows -/

/-- The state after a row that leaves `depth` brackets open: its connective wants another
operand. -/
def afterRow (row : Row) (depth : Nat) : State :=
  match row.parts.connective with
  | some _ => .wanted depth
  | none => .complete depth

section

variable {index : SubjectIndex} {row : Row} {us : List Token}

/-- The tokens of a row, by what they are: brackets that open, a requisite, brackets that close, and
a connective. -/
theorem exists_of_map_lexeme (h : us.map Token.lexeme = row.lexemes index) :
    ∃ opens t closes signs, us = opens ++ t :: (closes ++ signs) ∧
      opens.length = row.parts.opening ∧ (∀ u ∈ opens, u.kind = .leftParen) ∧
      t.kind = .requisite ∧ t.value = (row.leaf index).encode ∧
      closes.length = row.parts.closing ∧ (∀ u ∈ closes, u.kind = .rightParen) ∧
      signs.map Token.kind = row.parts.connective.toList.map Connective.token := by
  obtain ⟨opens, rest, rfl, hopens, hrest⟩ := List.map_eq_append_iff.1 h
  obtain ⟨t, rest, rfl, ht, hrest⟩ := List.map_eq_cons_iff.1 hrest
  obtain ⟨closes, signs, rfl, hcloses, hsigns⟩ := List.map_eq_append_iff.1 hrest
  have hkind {vs : List Token} {n : Nat} {x : Lexeme}
      (hvs : vs.map Token.lexeme = List.replicate n x) :
      vs.length = n ∧ ∀ v ∈ vs, v.kind = x.kind := by
    obtain ⟨hlength, hall⟩ := List.eq_replicate_iff.1 hvs
    rw [List.length_map] at hlength
    exact ⟨hlength, fun v hv => congrArg Lexeme.kind (hall _ (List.mem_map_of_mem hv))⟩
  have hsignKinds : signs.map Token.kind = row.parts.connective.toList.map Connective.token := by
    have hkinds := congrArg (List.map Lexeme.kind) hsigns
    rwa [List.map_map, List.map_map] at hkinds
  exact ⟨opens, t, closes, signs, rfl, (hkind hopens).1, (hkind hopens).2,
    congrArg Lexeme.kind ht, congrArg Lexeme.value ht, (hkind hcloses).1, (hkind hcloses).2,
    hsignKinds⟩

variable (hus : us.map Token.lexeme = row.lexemes index) (hclean : (row.leaf index).Clean)

include hus

/-- Where an operand is complete, no row may follow. -/
theorem run_complete_row (depth : Nat) (ts : List Token) :
    ∃ f : ExprFault, run (.complete depth) (us ++ ts) = some (.error f) ∧ f.Misplaced := by
  obtain ⟨opens, t, closes, signs, rfl, -, hopens, ht, -, -, -, -⟩ := exists_of_map_lexeme hus
  obtain ⟨u, rest, hrest, hu⟩ : ∃ u rest, opens ++ t :: (closes ++ signs) ++ ts = u :: rest ∧
      (u.kind = .leftParen ∨ u.kind = .requisite) := by
    cases opens with
    | nil => exact ⟨t, _, rfl, .inr ht⟩
    | cons u opens => exact ⟨u, _, rfl, .inl (hopens u List.mem_cons_self)⟩
  have hsign : u.kind ∉ Nonterminal.goesOn .expression := by
    rcases hu with hu | hu <;> simp [hu, Nonterminal.goesOn]
  rw [hrest]
  cases depth with
  | zero =>
    have hstop : u.kind ≠ .stop := by rcases hu with hu | hu <;> simp [hu]
    exact ⟨_, run_cons_of_error (step_complete_outside hsign hstop) rest, .inr ⟨u, rfl⟩⟩
  | succ depth =>
    have hclose : u.kind ≠ .rightParen := by rcases hu with hu | hu <;> simp [hu]
    exact ⟨_, run_cons_of_error (step_complete_inside hsign hclose) rest, .inl ⟨_, u, rfl⟩⟩

include hclean

/-- A row that closes no more than is open leads to the state after it. -/
theorem run_row {depth : Nat} (hle : row.parts.closing ≤ depth + row.parts.opening)
    (ts : List Token) :
    run (.wanted depth) (us ++ ts) =
      run (afterRow row (depth + row.parts.opening - row.parts.closing)) ts := by
  obtain ⟨opens, t, closes, signs, rfl, hopening, hopens, ht, hvalue, hclosing, hcloses, hsigns⟩ :=
    exists_of_map_lexeme hus
  rw [← hopening, ← hclosing] at hle ⊢
  have hleaf : step (.wanted (depth + opens.length)) t =
      .ok (some (.complete (depth + opens.length))) := by
    simp [step, ht, hvalue, hclean.decode_encode]
  rw [List.append_assoc, List.cons_append, List.append_assoc, run_opening hopens,
    run_cons_of_next hleaf, run_closing hcloses hle, afterRow]
  cases hconnective : row.parts.connective with
  | none =>
    obtain rfl : signs = [] := by simpa [hconnective] using hsigns
    rfl
  | some op =>
    obtain ⟨u, rfl, hu⟩ : ∃ u, signs = [u] ∧ u.kind = op.token := by
      simpa [hconnective, List.map_eq_singleton_iff] using hsigns
    exact run_cons_of_next (step_complete_connective hu) ts

/-- A row that closes more than is open is refused at the first such bracket. -/
theorem run_row_overclosed {depth : Nat} (hlt : depth + row.parts.opening < row.parts.closing)
    (ts : List Token) :
    ∃ t, run (.wanted depth) (us ++ ts) = some (.error (.unconsumedInput t)) := by
  obtain ⟨opens, t, closes, signs, rfl, hopening, hopens, ht, hvalue, hclosing, hcloses, -⟩ :=
    exists_of_map_lexeme hus
  rw [← hopening, ← hclosing] at hlt
  have hleaf : step (.wanted (depth + opens.length)) t =
      .ok (some (.complete (depth + opens.length))) := by
    simp [step, ht, hvalue, hclean.decode_encode]
  rw [List.append_assoc, List.cons_append, List.append_assoc, run_opening hopens,
    run_cons_of_next hleaf]
  exact run_overclosing hcloses hlt _

end

/-- After a single row comes the end, which is accepted exactly outside all brackets, and not after
a connective. -/
theorem run_afterRow_stop (row : Row) (depth : Nat) {stop : Token} (hstop : stop.kind = .stop) :
    row.parts.connective = none ∧ depth = 0 ∧ run (afterRow row depth) [stop] = some (.ok ()) ∨
      ¬ (row.parts.connective = none ∧ depth = 0) ∧
        ∃ f : ExprFault, run (afterRow row depth) [stop] = some (.error f) ∧ f.Misplaced := by
  unfold afterRow
  cases row.parts.connective with
  | some op =>
    have hstep : step (.wanted depth) stop =
        .error (.unexpectedToken [.requisite, .leftParen] stop) :=
      step_wanted_other (by simp [hstop]) (by simp [hstop])
    exact .inr ⟨by simp, _, run_cons_of_error hstep [], .inl ⟨_, stop, rfl⟩⟩
  | none =>
    cases depth with
    | zero => exact .inl ⟨rfl, rfl, by simp [run, step, hstop]⟩
    | succ depth =>
      have hstep : step (.complete (depth + 1)) stop =
          .error (.unexpectedToken [.rightParen] stop) :=
        step_complete_inside (by simp [hstop, Nonterminal.goesOn]) (by simp [hstop])
      exact .inr ⟨by simp, _, run_cons_of_error hstep [], .inl ⟨_, stop, rfl⟩⟩

/-- On the tokens of clean rows, the automaton accepts exactly where the rows fit together, and
otherwise blames a token for where it stands. -/
theorem run_rows {index : SubjectIndex} {rows : List Row} (hne : rows ≠ [])
    (hclean : ∀ row ∈ rows, (row.leaf index).Clean) {ts : List Token}
    (hts : ts.map Token.lexeme = rows.flatMap (Row.lexemes index)) {stop : Token}
    (hstop : stop.kind = .stop) (depth : Nat) :
    Row.Balanced depth rows ∧ run (.wanted depth) (ts ++ [stop]) = some (.ok ()) ∨
      ¬ Row.Balanced depth rows ∧
        ∃ f : ExprFault, run (.wanted depth) (ts ++ [stop]) = some (.error f) ∧ f.Misplaced := by
  -- A row passes on the brackets that it leaves open, so the induction is for any depth.
  induction rows generalizing depth ts with
  | nil => exact absurd rfl hne
  | cons row rows ih =>
    obtain ⟨us, vs, rfl, hus, hvs⟩ := List.map_eq_append_iff.1 hts
    have hrow := hclean row List.mem_cons_self
    rw [List.append_assoc]
    by_cases hle : row.parts.closing ≤ depth + row.parts.opening
    · rw [run_row hus hrow hle]
      cases rows with
      | nil =>
        obtain rfl : vs = [] := by simpa using hvs
        have hfits : depth + row.parts.opening - row.parts.closing = 0 ↔
            depth + row.parts.opening = row.parts.closing := by omega
        rw [Row.balanced_singleton, ← hfits, List.nil_append, and_assoc]
        exact run_afterRow_stop row _ hstop
      | cons next rows =>
        cases hconnective : row.parts.connective with
        | none =>
          -- The next row begins where only a connective may stand.
          obtain ⟨ws, xs, rfl, hws, -⟩ := List.map_eq_append_iff.1 hvs
          refine .inr ⟨fun h => (Row.balanced_cons_cons.1 h).1 hconnective, ?_⟩
          rw [afterRow, hconnective, List.append_assoc]
          exact run_complete_row hws _ _
        | some op =>
          have hbalanced : Row.Balanced depth (row :: next :: rows) ↔
              Row.Balanced (depth + row.parts.opening - row.parts.closing) (next :: rows) := by
            rw [Row.balanced_cons_cons]
            simp [hconnective, hle]
          rw [hbalanced, afterRow, hconnective]
          exact ih (List.cons_ne_nil _ _) (fun row' h => hclean row' (List.mem_cons_of_mem _ h)) hvs
            _
    · -- The row closes a bracket that is not open, and no later row makes up for it.
      have hunbalanced : ¬ Row.Balanced depth (row :: rows) := by
        intro h
        cases rows with
        | nil =>
          have := (Row.balanced_singleton.1 h).2
          omega
        | cons next rows => exact hle (Row.balanced_cons_cons.1 h).2.1
      have hlt : depth + row.parts.opening < row.parts.closing := by omega
      obtain ⟨t, ht⟩ := run_row_overclosed hus hrow hlt (vs ++ [stop])
      exact .inr ⟨hunbalanced, _, ht, .inr ⟨t, rfl⟩⟩

end Automaton

namespace Row

/-- Rows write more than nothing. -/
theorem encodeAll_ne_empty {index : SubjectIndex} {rows : List Row} (hne : rows ≠ []) :
    encodeAll index rows ≠ "" := by
  obtain ⟨row, rows, rfl⟩ := List.exists_cons_of_ne_nil hne
  intro hempty
  have htext := congrArg String.toList hempty
  rw [toList_encodeAll] at htext
  simp [lexemes, Leaf.encode] at htext

/-- Clean rows, one at least, write an expression that has a graph exactly when they fit together.
Otherwise the fault is that a token is not one of those expected there, or that it follows a
complete expression. -/
theorem ofText_encodeAll (owner : String) {index : SubjectIndex} {rows : List Row}
    (hne : rows ≠ []) (hclean : ∀ row ∈ rows, (row.leaf index).Clean) :
    ((∃ g, Graph.ofText owner (encodeAll index rows) = .ok g) ↔ Balanced 0 rows) ∧
      (¬ Balanced 0 rows →
        (∃ expected t,
          Graph.ofText owner (encodeAll index rows) = .error (.unexpectedToken expected t)) ∨
        ∃ t, Graph.ofText owner (encodeAll index rows) = .error (.unconsumedInput t)) := by
  have hlexemes : (tokens (encodeAll index rows)).map Token.lexeme =
      rows.flatMap (lexemes index) := by
    rw [tokens_encodeAll hclean, Lexeme.map_lexeme_place]
  have hstop : (stopToken (encodeAll index rows)).kind = .stop := rfl
  have hrun := Automaton.run_rows hne hclean hlexemes hstop 0
  rw [Automaton.run_ofTokens hstop fun t ht => kind_ne_stop ht] at hrun
  rw [Graph.ofText, if_neg (by simpa using encodeAll_ne_empty hne), Expr.parse]
  rcases hrun with ⟨hbalanced, hok⟩ | ⟨hunbalanced, f, herror, hf⟩
  · obtain ⟨e, he, -⟩ := map_eq_ok.1 (Option.some.inj hok)
    rw [he]
    exact ⟨iff_of_true ⟨_, rfl⟩ hbalanced, fun h => absurd hbalanced h⟩
  · rw [map_eq_error.1 (Option.some.inj herror)]
    refine ⟨iff_of_false (by simp [Except.map]) hunbalanced, fun _ => ?_⟩
    rcases hf with ⟨expected, t, rfl⟩ | ⟨t, rfl⟩
    · exact .inl ⟨expected, t, rfl⟩
    · exact .inr ⟨t, rfl⟩

/-- The course or the test compile together. The other way round, the test comes first and closes a
bracket that is not open, so they do not. -/
theorem ofText_encodeAll_courseOrTest :
    courseOrTest ≠ [] ∧ (∀ row ∈ courseOrTest, (row.leaf mathematics).Clean) ∧
      (∃ g, Graph.ofText "C" (encodeAll mathematics courseOrTest) = .ok g) ∧
      ¬ ∃ g, Graph.ofText "C" (encodeAll mathematics courseOrTest.reverse) = .ok g := by
  have hreverse : ∀ row ∈ courseOrTest.reverse, (row.leaf mathematics).Clean := by
    intro row hrow
    exact clean_courseOrTest row (List.mem_reverse.1 hrow)
  refine ⟨by decide, clean_courseOrTest, ?_, ?_⟩
  · exact (ofText_encodeAll "C" (by decide) clean_courseOrTest).1.2 (by decide +kernel)
  · rw [(ofText_encodeAll "C" (by decide) hreverse).1]
    decide +kernel

end Row

end Requisite
