import Requisite.Proofs.Store.Saving
import Requisite.Store.Transaction

/-!
# What programs of statements leave

When a statement is written depends on when the session looks, flushes or commits next. It makes no
difference to the end: a program that commits when it is done leaves what it would leave if every
statement were carried out as soon as it is added (`Program.run_committing`), since what is pending
may as well be written first (`Program.run_committing_flush`). And where a statement is refused,
what was committed stays as it was, since nothing is committed on the way
(`Program.committed_of_refused`).
-/

namespace Requisite

open Schedule

variable {ε α β : Type} {execute : Tables → Statement → Except ε Tables}

/-! ## Pending statements -/

/-- Statements may be written in two parts. -/
theorem writeAll_append (t : Tables) (first second : List Statement) :
    writeAll execute t (first ++ second) =
      match writeAll execute t first with
      | (t, none) => writeAll execute t second
      | (t, some refusal) => (t, some refusal) := by
  induction first generalizing t with
  | nil => rfl
  | cons statement first ih =>
    rw [List.cons_append, writeAll, writeAll]
    cases execute t statement with
    | error refusal => rfl
    | ok t' => exact ih t'

namespace Transaction

variable {w w' : Transaction}

/-- With nothing pending, a flush changes nothing. -/
theorem flush_of_pending_nil (h : w.pending = []) : w.flush execute = (w, none) := by
  obtain ⟨committed, written, pending⟩ := w
  obtain rfl : pending = [] := h
  rfl

/-- A flushed session has nothing pending. -/
theorem pending_flush {refusal : Option ε} (h : w.flush execute = (w', refusal)) :
    w'.pending = [] := by
  have hw' : (w.flush execute).1 = w' := congrArg Prod.fst h
  rw [← hw']
  rfl

/-- A flush leaves what is committed. -/
theorem committed_flush {refusal : Option ε} (h : w.flush execute = (w', refusal)) :
    w'.committed = w.committed := by
  have hw' : (w.flush execute).1 = w' := congrArg Prod.fst h
  rw [← hw']
  rfl

/-- With nothing pending, what comes after a flush comes at once. -/
theorem afterFlush_of_pending_nil (h : w.pending = [])
    (next : Transaction → Transaction × Except ε α) : w.afterFlush execute next = next w := by
  rw [afterFlush, flush_of_pending_nil h]

/-- A flush may be made twice. -/
theorem afterFlush_afterFlush (w : Transaction) (next : Transaction → Transaction × Except ε α) :
    (w.afterFlush execute fun w => w.afterFlush execute next) = w.afterFlush execute next := by
  unfold afterFlush
  cases hflush : w.flush execute with
  | mk w' refused =>
    cases refused with
    | some refusal => rfl
    | none =>
      dsimp only
      rw [flush_of_pending_nil (pending_flush hflush)]

/-- A statement that is added before a flush may be added after it, and flushed then. -/
theorem afterFlush_add (w : Transaction) (statement : Statement)
    (next : Transaction → Transaction × Except ε α) :
    (w.add statement).afterFlush execute next =
      w.afterFlush execute fun w => (w.add statement).afterFlush execute next := by
  simp only [afterFlush, flush, add, writeAll_append]
  cases writeAll execute w.written w.pending with
  | mk t refused => cases refused <;> rfl

/-- Where nothing is committed after a flush, nothing is with it. -/
theorem committed_of_afterFlush {next : Transaction → Transaction × Except ε α} {refusal : ε}
    (hnext : ∀ w₁, next w₁ = (w', .error refusal) → w'.committed = w₁.committed)
    (h : w.afterFlush execute next = (w', .error refusal)) : w'.committed = w.committed := by
  unfold afterFlush at h
  split at h
  next w₁ hflush => exact (hnext w₁ h).trans (committed_flush hflush)
  next w₁ refusal' hflush =>
    cases h
    exact committed_flush hflush

end Transaction

namespace Program

/-! ## Committing once -/

/-- The program does not commit. -/
def CommitFree : Program α → Prop
  | .done _ => True
  | .look next => ∀ t, (next t).CommitFree
  | .add _ next => next.CommitFree
  | .commit _ => False

/-- A result is no commit. -/
theorem commitFree_done (result : α) : (done result).CommitFree :=
  trivial

/-- Programs that do not commit may follow each other. -/
theorem CommitFree.bind {p : Program α} {next : α → Program β} (hp : p.CommitFree)
    (hnext : ∀ result, (next result).CommitFree) : (p.bind next).CommitFree := by
  induction p with
  | done result => exact hnext result
  | look rest ih => exact fun t => ih t (hp t)
  | add statement rest ih => exact ih hp
  | commit rest => exact hp.elim

/-- A result may be made into another. -/
theorem CommitFree.map {p : Program α} (hp : p.CommitFree) (f : α → β) :
    (p.map f).CommitFree :=
  hp.bind fun _ => commitFree_done _

/-- A flush is no commit. -/
theorem CommitFree.flush {p : Program α} (hp : p.CommitFree) : (flush p).CommitFree :=
  fun _ => hp

/-- Adding statements is no commit. -/
theorem CommitFree.addEach {p : Program α} (hp : p.CommitFree) (statements : List Statement) :
    (addEach statements p).CommitFree := by
  induction statements with
  | nil => exact hp
  | cons statement statements ih => exact ih

/-- Where the store refuses a statement of a program that commits when it is done, nothing was
committed. -/
theorem committed_of_refused {p : Program α} (hp : p.CommitFree) {w w' : Transaction} {refusal : ε}
    (h : p.committing.run execute w = (w', .error refusal)) : w'.committed = w.committed := by
  induction p generalizing w with
  | done result =>
    -- The only commit of the program is at its end, and is refused before it commits.
    exact Transaction.committed_of_afterFlush (fun w₁ h₁ => by cases h₁) h
  | look next ih => exact Transaction.committed_of_afterFlush (fun w₁ h₁ => ih _ (hp _) h₁) h
  | add statement next ih =>
    have hrest : w'.committed = (w.add statement).committed := ih hp h
    exact hrest
  | commit next => exact hp.elim

/-! ## Every statement at once -/

/-- The tables after a program, if every statement is carried out as soon as it is added. -/
def carryOut (execute : Tables → Statement → Except ε Tables) :
    Program α → Tables → Except ε (Tables × α)
  | .done result, t => .ok (t, result)
  | .look next, t => (next t).carryOut execute t
  | .add statement next, t => (execute t statement).bind (next.carryOut execute)
  | .commit next, t => next.carryOut execute t

/-- A program that follows another is carried out on what that leaves. -/
theorem carryOut_bind (p : Program α) (next : α → Program β) (t : Tables) :
    (p.bind next).carryOut execute t =
      (p.carryOut execute t).bind fun after => (next after.2).carryOut execute after.1 := by
  induction p generalizing t with
  | done result => rfl
  | look rest ih => exact ih t t
  | add statement rest ih =>
    show (execute t statement).bind _ = ((execute t statement).bind _).bind _
    cases execute t statement with
    | error refusal => rfl
    | ok t' => exact ih t'
  | commit rest ih => exact ih t

/-- A result is made into another. -/
theorem carryOut_map (p : Program α) (f : α → β) (t : Tables) :
    (p.map f).carryOut execute t =
      (p.carryOut execute t).map fun after => (after.1, f after.2) := by
  rw [map, carryOut_bind]
  cases p.carryOut execute t <;> rfl

/-- What is pending may be written before a program that commits when it is done. -/
theorem run_committing_flush (p : Program α) (w : Transaction) :
    p.committing.run execute w = w.afterFlush execute (p.committing.run execute) := by
  induction p generalizing w with
  -- The first step of the program is a flush, and another one before it changes nothing.
  | done result => exact (w.afterFlush_afterFlush _).symm
  | look next ih => exact (w.afterFlush_afterFlush _).symm
  | commit next ih => exact (w.afterFlush_afterFlush _).symm
  | add statement next ih =>
    calc next.committing.run execute (w.add statement)
      _ = (w.add statement).afterFlush execute (next.committing.run execute) := ih _
      _ = w.afterFlush execute fun w =>
            (w.add statement).afterFlush execute (next.committing.run execute) :=
          w.afterFlush_add statement _
      _ = w.afterFlush execute fun w => next.committing.run execute (w.add statement) := by
          simp only [← ih]

/-- A program that commits when it is done leaves what it leaves if every statement is carried out
at once. -/
theorem run_committing (execute : Tables → Statement → Except ε Tables) {p : Program α}
    (hp : p.CommitFree) {w : Transaction} (hw : w.pending = []) :
    match p.carryOut execute w.written with
    | .ok (t, result) =>
      p.committing.run execute w = ({ committed := t, written := t }, .ok result)
    | .error refusal => ∃ w', p.committing.run execute w = (w', .error refusal) := by
  induction p generalizing w with
  | done result =>
    obtain ⟨committed, written, pending⟩ := w
    obtain rfl : pending = [] := hw
    rfl
  | look next ih =>
    -- Nothing is pending, so the session sees the tables that the program is carried out on.
    have hrun : (look next).committing.run execute w =
        (next w.written).committing.run execute w :=
      Transaction.afterFlush_of_pending_nil hw _
    rw [hrun]
    exact ih w.written (hp w.written) hw
  | add statement next ih =>
    -- The statement is pending now; written at once, it leaves nothing pending for the rest.
    have hrun : (add statement next).committing.run execute w =
        (w.add statement).afterFlush execute (next.committing.run execute) :=
      run_committing_flush next (w.add statement)
    rw [hrun, carryOut]
    simp only [Transaction.afterFlush, Transaction.flush, Transaction.add, hw, List.nil_append,
      writeAll]
    cases execute w.written statement with
    | error refusal => exact ⟨_, rfl⟩
    | ok t =>
      have hnext : ({ w with written := t, pending := [] } : Transaction).pending = [] := rfl
      exact ih hp hnext
  | commit next => exact hp.elim

end Program

end Requisite
