import Requisite.Proofs.Expr.Descent
import Requisite.Proofs.Segments

/-!
# The parser is a counter automaton

Recursive descent keeps a stack of productions, but all that matters of it for acceptance is whether
an operand is wanted or complete, and how many brackets are open. `Automaton.run` goes once over the
tokens with these two, and `run_tokenize` shows that it accepts and refuses exactly as the parser
does, with the same fault.

What the grammar derives leads the automaton from the state in which its nonterminal is asked for to
that in which it is complete, at any depth (`run_of_derives`). Where a production fails, the tokens
before the fault are derived by the productions that succeeded, so the automaton comes to the same
token in the state that refuses it (`run_of_read_error`).
-/

namespace Requisite

namespace Automaton

/-- A state of the automaton. -/
inductive State where
  /-- An operand is wanted, within `depth` brackets. -/
  | wanted (depth : Nat)
  /-- An operand is complete, within `depth` brackets. -/
  | complete (depth : Nat)

/-- What a token does: it leads to a state, or ends the expression (`none`), or is refused. -/
def step : State → Token → Except ExprFault (Option State)
  | .wanted depth, t =>
    match t.kind with
    | .leftParen => .ok (some (.wanted (depth + 1)))
    | .requisite =>
      match Leaf.decode t.value with
      | .ok _ => .ok (some (.complete depth))
      | .error fault => .error (.malformedLeaf t.value fault)
    | _ => .error (.unexpectedToken [.requisite, .leftParen] t)
  | .complete depth, t =>
    match t.kind, depth with
    | .and, depth | .or, depth => .ok (some (.wanted depth))
    | .rightParen, depth + 1 => .ok (some (.complete depth))
    | .stop, 0 => .ok none
    | _, _ + 1 => .error (.unexpectedToken [.rightParen] t)
    | _, 0 => .error (.unconsumedInput t)

/-- How the automaton ends on the tokens from a state on, or `none` where it needs another token
after the last one. -/
def run : State → List Token → Option (Except ExprFault Unit)
  | _, [] => none
  | s, t :: ts =>
    match step s t with
    | .error fault => some (.error fault)
    | .ok none => some (.ok ())
    | .ok (some s) => run s ts

/-! ## Single steps -/

section

variable {s s' : State} {t : Token} {depth : Nat}

/-- A token that leads to a state is passed. -/
theorem run_cons_of_next (h : step s t = .ok (some s')) (ts : List Token) :
    run s (t :: ts) = run s' ts := by
  rw [run, h]

/-- A token that is refused ends the run. -/
theorem run_cons_of_error {fault : ExprFault} (h : step s t = .error fault) (ts : List Token) :
    run s (t :: ts) = some (.error fault) := by
  rw [run, h]

/-- After an operand, a connective wants another one. -/
theorem step_complete_connective {op : Connective} (ht : t.kind = op.token) :
    step (.complete depth) t = .ok (some (.wanted depth)) := by
  unfold step
  cases op <;> simp [ht, Connective.token]

/-- An open bracket is closed after an operand. -/
theorem step_complete_rightParen (ht : t.kind = .rightParen) :
    step (.complete (depth + 1)) t = .ok (some (.complete depth)) := by
  simp [step, ht]

/-- Within brackets, nothing but a connective or the closing bracket follows an operand. -/
theorem step_complete_inside (hsign : t.kind ∉ Nonterminal.goesOn .expression)
    (hclose : t.kind ≠ .rightParen) :
    step (.complete (depth + 1)) t = .error (.unexpectedToken [.rightParen] t) := by
  unfold step
  cases hk : t.kind <;> simp_all [Nonterminal.goesOn]

/-- Outside brackets, nothing but a connective or the end follows an operand. -/
theorem step_complete_outside (hsign : t.kind ∉ Nonterminal.goesOn .expression)
    (hstop : t.kind ≠ .stop) : step (.complete 0) t = .error (.unconsumedInput t) := by
  unfold step
  cases hk : t.kind <;> simp_all [Nonterminal.goesOn]

/-- An operand starts with a requisite or an opening bracket. -/
theorem step_wanted_other (hreq : t.kind ≠ .requisite) (hopen : t.kind ≠ .leftParen) :
    step (.wanted depth) t = .error (.unexpectedToken [.requisite, .leftParen] t) := by
  unfold step
  cases hk : t.kind <;> simp_all

/-- No step blames a production without members. -/
theorem step_ne_emptyProduction (s : State) (t : Token) (production : Production) :
    step s t ≠ .error (.emptyProduction production) := by
  unfold step
  split
  · split
    · simp
    · split <;> simp
    · simp
  · split <;> simp

end

/-- No run blames a production without members. -/
theorem run_ne_emptyProduction (production : Production) (ts : List Token) (s : State) :
    run s ts ≠ some (.error (.emptyProduction production)) := by
  induction ts generalizing s with
  | nil => simp [run]
  | cons t ts ih =>
    rw [run]
    split
    next fault hstep =>
      intro h
      obtain rfl : fault = .emptyProduction production := by simpa using h
      exact step_ne_emptyProduction s t production hstep
    next => simp
    next s' _ => exact ih s'

/-! ## Runs -/

/-- The state in which a nonterminal is asked for: the further members of a chain come after a
complete operand, and all else where an operand is wanted. -/
def entry : Nonterminal → Nat → State
  | .further _, depth => .complete depth
  | .chain _, depth | .factor, depth => .wanted depth

/-- The members of a chain are asked for where an operand is wanted. -/
theorem entry_member (op : Connective) (depth : Nat) :
    entry (.member op) depth = .wanted depth := by
  cases op <;> rfl

/-- What a nonterminal derives leads from the state in which it is asked for to a complete operand,
at the same depth. -/
theorem run_of_derives {n : Nonterminal} {used : List Token} {ds : List Derivation}
    (h : Derives n used ds) (depth : Nat) (rest : List Token) :
    run (entry n depth) (used ++ rest) = run (.complete depth) rest := by
  induction h generalizing depth rest with
  | @chain op ts us head tail first others ihfirst ihothers =>
    have hfirst := ihfirst depth (us ++ rest)
    rw [entry_member] at hfirst
    rw [List.append_assoc]
    exact hfirst.trans (ihothers depth rest)
  | none => rfl
  | @more op t ts us head tail sign first others ihfirst ihothers =>
    have hfirst := ihfirst depth (us ++ rest)
    rw [entry_member] at hfirst
    rw [List.cons_append, List.append_assoc, entry,
      run_cons_of_next (step_complete_connective sign), hfirst]
    exact ihothers depth rest
  | @leaf t l kind decode =>
    exact run_cons_of_next (by simp [step, entry, kind, decode]) rest
  | @group t u ts content opening inner closing ih =>
    have hopen : step (.wanted depth) t = .ok (some (.wanted (depth + 1))) := by
      simp [step, opening]
    rw [List.cons_append, List.append_assoc, List.singleton_append, entry, run_cons_of_next hopen]
    refine (ih (depth + 1) (u :: rest)).trans ?_
    rw [run_cons_of_next (step_complete_rightParen closing)]

/-- Where the production of `n` fails on `ts`, the automaton fails on the same token. -/
def FailsAlike (stop : Token) (n : Nonterminal) (ts : List Token) : Prop :=
  ∀ f, Nonterminal.read stop n ts = .error f →
    ∀ depth, run (entry n depth) (ts ++ [stop]) = some (.error f)

/-- Where a member or the further ones after it fail, so does the automaton, whatever would be made
of them. -/
theorem run_of_members_error {stop : Token} {op : Connective} {ts : List Token} {f : ExprFault}
    {make : List Expr × List Token → List Expr × List Token → List Expr × List Token}
    (ihfirst : FailsAlike stop (.member op) ts)
    (ihothers : ∀ heads mid, Nonterminal.read stop (.member op) ts = .ok (heads, mid) →
      FailsAlike stop (.further op) mid)
    (h : ((Nonterminal.read stop (.member op) ts).bind fun first =>
      (Nonterminal.read stop (.further op) first.2).bind fun others => .ok (make first others)) =
        .error f) (depth : Nat) :
    run (.wanted depth) (ts ++ [stop]) = some (.error f) := by
  rw [← entry_member op]
  rcases bind_eq_error.1 h with hfail | ⟨⟨heads, mid⟩, hfirst, hothers⟩
  · exact ihfirst f hfail depth
  · rcases bind_eq_error.1 hothers with hfail | ⟨others, -, hmade⟩
    · -- The first member is derived, so the automaton comes to where the further ones fail.
      obtain ⟨used, ds, rfl, hd, -⟩ := Nonterminal.derives_of_read _ _ _ _ hfirst
      rw [List.append_assoc, run_of_derives hd depth (mid ++ [stop])]
      exact ihothers _ _ hfirst f hfail depth
    · simp at hmade

/-- Every production fails as the automaton does. -/
theorem run_of_read_error {stop : Token} (hstop : stop.kind = .stop) (n : Nonterminal)
    (ts : List Token) : FailsAlike stop n ts := by
  induction n, ts using Nonterminal.read_induct stop with
  | chain op ts ihfirst ihothers =>
    intro f h depth
    rw [Nonterminal.read_chain] at h
    exact run_of_members_error ihfirst ihothers h depth
  | further_nil op =>
    intro f h
    simp [Nonterminal.read_further_nil] at h
  | further_stop op t ts ht =>
    intro f h
    simp [Nonterminal.read_further_of_ne ts ht] at h
  | further_more op t ts ht ihfirst ihothers =>
    intro f h depth
    rw [Nonterminal.read_further_of_eq ts ht] at h
    rw [List.cons_append, entry, run_cons_of_next (step_complete_connective ht)]
    exact run_of_members_error ihfirst ihothers h depth
  | factor_nil =>
    intro f h depth
    obtain rfl := by simpa [Nonterminal.read_factor_nil] using h
    exact run_cons_of_error (step_wanted_other (by simp [hstop]) (by simp [hstop])) []
  | factor_requisite t ts ht =>
    intro f h depth
    rw [Nonterminal.read_factor_requisite ts ht] at h
    cases hdecode : Leaf.decode t.value with
    | ok l => simp [hdecode] at h
    | error fault =>
      obtain rfl := by simpa [hdecode] using h
      exact run_cons_of_error (by simp [step, entry, ht, hdecode]) _
  | factor_group t ts ht ih =>
    intro f h depth
    have hopen : step (.wanted depth) t = .ok (some (.wanted (depth + 1))) := by simp [step, ht]
    rw [Nonterminal.read_factor_leftParen ts ht, bind_eq_error] at h
    rw [List.cons_append, entry, run_cons_of_next hopen]
    rcases h with h | ⟨⟨contents, mid⟩, hinner, h⟩
    · exact ih f h (depth + 1)
    · rcases bind_eq_error.1 h with h | ⟨others, -, h⟩
      · -- The bracket is not closed where the expression in it ends.
        obtain ⟨used, ds, rfl, hd, -⟩ := Nonterminal.derives_of_read _ _ _ _ hinner
        have hends := Nonterminal.ends_of_read _ _ _ _ hinner (by simp)
        rw [List.append_assoc]
        refine (run_of_derives hd (depth + 1) (mid ++ [stop])).trans ?_
        cases mid with
        | nil =>
          obtain rfl := by simpa [Nonterminal.afterBracket] using h
          exact run_cons_of_error
            (step_complete_inside (by simp [hstop, Nonterminal.goesOn]) (by simp [hstop])) []
        | cons u mid =>
          by_cases hu : u.kind = .rightParen
          · simp [Nonterminal.afterBracket, hu] at h
          · obtain rfl := by simpa [Nonterminal.afterBracket, hu] using h
            exact run_cons_of_error (step_complete_inside (hends u rfl) hu) _
      · simp at h
  | factor_other t ts hreq hopen =>
    intro f h depth
    obtain rfl := by simpa [Nonterminal.read_factor_other ts hreq hopen] using h
    exact run_cons_of_error (step_wanted_other hreq hopen) _

/-- On tokens and the end of their text, the automaton ends as the parser does. -/
theorem run_ofTokens {stop : Token} (hstop : stop.kind = .stop) {ts : List Token}
    (hts : ∀ t ∈ ts, t.kind ≠ .stop) :
    run (.wanted 0) (ts ++ [stop]) = some ((Expr.ofTokens stop ts).map fun _ => ()) := by
  cases h : Expr.ofTokens stop ts with
  | ok e =>
    obtain ⟨d, hd, -⟩ := Expr.ofTokens_eq_ok_iff.1 h
    refine (run_of_derives hd 0 [stop]).trans ?_
    simp [run, step, hstop, Except.map]
  | error f =>
    rcases Expr.ofTokens_eq_error.1 h with hread | ⟨es, t, rest, hread, rfl⟩
    · exact run_of_read_error hstop _ _ f hread 0
    · obtain ⟨used, ds, rfl, hd, -⟩ := Nonterminal.derives_of_read _ _ _ _ hread
      have hends := Nonterminal.ends_of_read _ _ _ _ hread (by simp)
      rw [List.append_assoc]
      refine (run_of_derives hd 0 (t :: rest ++ [stop])).trans ?_
      exact run_cons_of_error (step_complete_outside (hends t rfl) (hts t (by simp))) _

/-- The parser accepts an expression that is not empty exactly when the automaton does, and
otherwise refuses it with the same fault, which names the same token and the same expected kinds. It
never blames a production without members. A production that starts within the tokens stops within
them: the token that is looked at next is one of the expression, or its end. -/
theorem run_tokenize (owner expression : String) (h : expression ≠ "") :
    run (.wanted 0) (tokenize expression) = some ((Graph.ofText owner expression).map fun _ => ()) ∧
      (∀ production, Graph.ofText owner expression ≠ .error (.emptyProduction production)) ∧
      ∀ n ts es rest, ts <:+ tokens expression →
        Nonterminal.read (stopToken expression) n ts = .ok (es, rest) →
        rest ++ [stopToken expression] <:+ tokenize expression := by
  have hrun : run (.wanted 0) (tokenize expression) =
      some ((Graph.ofText owner expression).map fun _ => ()) := by
    rw [tokenize, run_ofTokens rfl fun t ht => kind_ne_stop ht, Graph.ofText,
      if_neg (by simpa using h), Expr.parse]
    cases Expr.ofTokens (stopToken expression) (tokens expression) <;> rfl
  refine ⟨hrun, ?_, ?_⟩
  · intro production hempty
    rw [hempty] at hrun
    exact run_ne_emptyProduction production _ _ hrun
  · intro n ts es rest hts hread
    obtain ⟨used, ds, rfl, -, -⟩ := Nonterminal.derives_of_read _ _ _ _ hread
    obtain ⟨before, hbefore⟩ := hts
    exact ⟨before ++ used, by rw [tokenize, ← hbefore]; simp⟩

/-- A bracket that is never closed is missed at the end of the text, at the depth of one bracket,
and the factor after it is read within the tokens. -/
theorem run_tokenize_unclosed :
    "(A{tffff}&B{tffff}" ≠ "" ∧
      run (.wanted 0) (tokenize "(A{tffff}&B{tffff}") =
        some (.error (.unexpectedToken [.rightParen] ⟨.stop, "$", 18⟩)) ∧
      Graph.ofText "C" "(A{tffff}&B{tffff}" =
        .error (.unexpectedToken [.rightParen] ⟨.stop, "$", 18⟩) ∧
      [⟨.and, "&", 9⟩, ⟨.requisite, "B{tffff}", 10⟩, ⟨.stop, "$", 18⟩] <:+
        tokenize "(A{tffff}&B{tffff}" := by
  have hne : "(A{tffff}&B{tffff}" ≠ "" := by decide
  obtain ⟨hrun, -, hsuffix⟩ := run_tokenize "C" "(A{tffff}&B{tffff}" hne
  have hend : run (.wanted 0) (tokenize "(A{tffff}&B{tffff}") =
      some (.error (.unexpectedToken [.rightParen] ⟨.stop, "$", 18⟩)) := rfl
  have hread : Nonterminal.read (stopToken "(A{tffff}&B{tffff}") .factor
      [⟨.requisite, "A{tffff}", 1⟩, ⟨.and, "&", 9⟩, ⟨.requisite, "B{tffff}", 10⟩] =
      .ok ([.leaf ⟨"A", true, false, false, false, "f"⟩],
        [⟨.and, "&", 9⟩, ⟨.requisite, "B{tffff}", 10⟩]) := by
    rw [Nonterminal.read_factor_requisite _ rfl]
    rfl
  refine ⟨hne, hend, ?_, hsuffix _ _ _ _ ⟨[⟨.leftParen, "(", 0⟩], rfl⟩ hread⟩
  rw [hend] at hrun
  exact map_eq_error.1 (Option.some.inj hrun).symm

end Automaton

end Requisite
