import Requisite.Expr.Basic
import Requisite.Fault

/-!
# Parsing expressions

Recursive descent over the tokens of an expression, where conjunction binds tighter than
disjunction:

    expression := term terms          terms   := | or term terms
    term       := factor factors      factors := | and factor factors
    factor     := requisite | leftParen expression rightParen

Each production returns what it has read and the tokens that remain, with a proof that they are
fewer. Past the last token stands `stop`, the end of the text.
-/

namespace Requisite

namespace Expr

/-- The expression for the members of a production. A lone member keeps its own identity. -/
def combine (op : Connective) : List Expr → Except ExprFault Expr
  | [] =>
    .error (.emptyProduction (match op with
      | .and => .term
      | .or => .expression))
  | [e] => .ok e
  | members => .ok (.chain op members)

/-- What a production reads of `ts`, with the tokens that remain. -/
abbrev Parsed (α : Type) (ts : List Token) : Type :=
  Except ExprFault (α × { rest : List Token // rest.length < ts.length })

/-- What a possibly empty production reads of `ts`, with the tokens that remain. -/
abbrev ParsedMany (α : Type) (ts : List Token) : Type :=
  Except ExprFault (List α × { rest : List Token // rest.length ≤ ts.length })

/-- The tokens after the closing bracket that has to come first. -/
def closeGroup (stop : Token) :
    (ts : List Token) → Except ExprFault { rest : List Token // rest.length < ts.length }
  | [] => .error (.unexpectedToken [.rightParen] stop)
  | t :: rest =>
    if t.kind = .rightParen then .ok ⟨rest, by simp⟩
    else .error (.unexpectedToken [.rightParen] t)

mutual

/-- One or more terms, joined by disjunction. -/
def expression (stop : Token) (ts : List Token) : Parsed Expr ts := do
  let (head, ⟨rest₁, h₁⟩) ← term stop ts
  let (tail, ⟨rest₂, h₂⟩) ← terms stop rest₁
  let e ← combine .or (head :: tail)
  .ok (e, ⟨rest₂, Nat.lt_of_le_of_lt h₂ h₁⟩)
termination_by (ts.length, 3)

/-- The further terms of a disjunction. -/
def terms (stop : Token) (ts : List Token) : ParsedMany Expr ts :=
  match ts with
  | [] => .ok ([], ⟨[], Nat.le_refl _⟩)
  | t :: rest =>
    if t.kind = .or then do
      let (head, ⟨rest₁, h₁⟩) ← term stop rest
      let (tail, ⟨rest₂, h₂⟩) ← terms stop rest₁
      .ok (head :: tail, ⟨rest₂, by simp; omega⟩)
    else .ok ([], ⟨t :: rest, Nat.le_refl _⟩)
termination_by (ts.length, 0)

/-- One or more factors, joined by conjunction. -/
def term (stop : Token) (ts : List Token) : Parsed Expr ts := do
  let (head, ⟨rest₁, h₁⟩) ← factor stop ts
  let (tail, ⟨rest₂, h₂⟩) ← factors stop rest₁
  let e ← combine .and (head :: tail)
  .ok (e, ⟨rest₂, Nat.lt_of_le_of_lt h₂ h₁⟩)
termination_by (ts.length, 2)

/-- The further factors of a conjunction. -/
def factors (stop : Token) (ts : List Token) : ParsedMany Expr ts :=
  match ts with
  | [] => .ok ([], ⟨[], Nat.le_refl _⟩)
  | t :: rest =>
    if t.kind = .and then do
      let (head, ⟨rest₁, h₁⟩) ← factor stop rest
      let (tail, ⟨rest₂, h₂⟩) ← factors stop rest₁
      .ok (head :: tail, ⟨rest₂, by simp; omega⟩)
    else .ok ([], ⟨t :: rest, Nat.le_refl _⟩)
termination_by (ts.length, 0)

/-- A leaf, or an expression in brackets. -/
def factor (stop : Token) (ts : List Token) : Parsed Expr ts :=
  match ts with
  | [] => .error (.unexpectedToken [.requisite, .leftParen] stop)
  | t :: rest =>
    match t.kind with
    | .requisite =>
      match Leaf.decode t.value with
      | .ok l => .ok (.leaf l, ⟨rest, by simp⟩)
      | .error fault => .error (.malformedLeaf t.value fault)
    | .leftParen => do
      let (content, ⟨rest₁, h₁⟩) ← expression stop rest
      let ⟨rest₂, h₂⟩ ← closeGroup stop rest₁
      .ok (.group content, ⟨rest₂, by simp; omega⟩)
    | _ => .error (.unexpectedToken [.requisite, .leftParen] t)
termination_by (ts.length, 1)

end

/-- The expression that the tokens write, all of them. -/
def ofTokens (stop : Token) (ts : List Token) : Except ExprFault Expr := do
  let (e, ⟨rest, _⟩) ← expression stop ts
  match rest with
  | [] => .ok e
  | t :: _ => .error (.unconsumedInput t)

/-- The expression that a text writes. -/
def parse (text : String) : Except ExprFault Expr :=
  ofTokens (stopToken text) (tokens text)

end Expr

end Requisite
