import Scaffold.Template.Error
import Scaffold.Template.Scanner
import Scaffold.Template.Statement

/-!
# Statements from tokens

Tokens are read one at a time, with the conditionals that are still open kept on a stack. Brackets
mean nothing, but they may not stand between an `if` and its variable.

* `Progress.step`: the effect of one token.
* `readStatements`: the statements of a token list, or the first error, and the tokens from the
  one that was refused on.
* `parse`: the statements of a template.
* `readFrom_append_of_advance`: reading goes token by token, so a list may be cut anywhere.
-/

namespace Scaffold.Template

/-! ## Progress -/

/-- A conditional whose end has not come yet. -/
structure OpenConditional where
  name : String
  negated : Bool
  /-- The statements before the conditional in the block that holds it. -/
  before : List Statement
  /-- The first branch, once an `else` has ended it. -/
  thenBranch : Option (List Statement)
  deriving Repr, Inhabited

/-- What the next token may be. -/
inductive Expectation where
  /-- The start of a statement or the end of a branch. -/
  | statement
  /-- The variable of a condition; a negation sign only if none has come yet. -/
  | condition (negated : Bool)
  deriving DecidableEq, Repr, Inhabited

/-- What has been read so far: the statements of the innermost block, the open conditionals from
the innermost out, and what may come next. -/
structure Progress where
  block : List Statement := []
  openConditionals : List OpenConditional := []
  expecting : Expectation := .statement
  deriving Repr, Inhabited

namespace Progress

/-- A statement is added to the innermost block. -/
def push (p : Progress) (s : Statement) : Progress :=
  { p with block := p.block ++ [s] }

/-- A conditional begins. -/
def enter (p : Progress) (name : String) (negated : Bool) : Progress :=
  { block := []
    openConditionals := ⟨name, negated, p.block, none⟩ :: p.openConditionals
    expecting := .statement }

/-- The first branch of the innermost conditional ends and the second begins, unless it has begun
already. -/
def turn? (p : Progress) : Option Progress :=
  match p.openConditionals with
  | ⟨name, negated, before, none⟩ :: os =>
    some { p with block := [], openConditionals := ⟨name, negated, before, some p.block⟩ :: os }
  | _ => none

/-- The innermost conditional ends, if there is one. -/
def leave? (p : Progress) : Option Progress :=
  match p.openConditionals with
  | [] => none
  | ⟨name, negated, before, none⟩ :: os =>
    some { p with
      block := before ++ [.conditional name negated p.block none]
      openConditionals := os }
  | ⟨name, negated, before, some thenBranch⟩ :: os =>
    some { p with
      block := before ++ [.conditional name negated thenBranch (some p.block)]
      openConditionals := os }

/-- The effect of a token where a statement may start. -/
def stepStatement (p : Progress) (t : Token) : Except SyntaxError Progress :=
  match t.kind with
  | .openBracket | .closeBracket => .ok p
  | .text => .ok (p.push (.text t.value))
  | .variable => .ok (p.push (.variable t.value))
  | .ifWord => .ok { p with expecting := .condition false }
  | .elseWord => p.turn?.elim (.error (.unexpected t)) .ok
  | .endifWord => p.leave?.elim (.error (.unexpected t)) .ok
  | .invalid => .error (.invalidCharacter t.value t.position)
  | .bang => .error (.unexpected t)

/-- The effect of a token where the variable of a condition has to come. -/
def stepCondition (p : Progress) (negated : Bool) (t : Token) : Except SyntaxError Progress :=
  match t.kind, negated with
  | .variable, _ => .ok (p.enter t.value negated)
  | .bang, false => .ok { p with expecting := .condition true }
  | .invalid, _ => .error (.invalidCharacter t.value t.position)
  | _, _ => .error (.missingCondition (some t))

/-- The effect of a token. -/
def step (p : Progress) (t : Token) : Except SyntaxError Progress :=
  match p.expecting with
  | .statement => p.stepStatement t
  | .condition negated => p.stepCondition negated t

/-- The statements read, when the tokens end here. -/
def finish (p : Progress) : Except SyntaxError (List Statement) :=
  match p.expecting, p.openConditionals with
  | .condition _, _ => .error (.missingCondition none)
  | .statement, _ :: _ => .error .unclosed
  | .statement, [] => .ok p.block

end Progress

/-! ## Reading a list of tokens -/

/-- Reads tokens on from some progress. The second component holds the tokens that were not
accepted: none, or those from the offending token on. -/
def readFrom (p : Progress) : List Token → Except SyntaxError (List Statement) × List Token
  | [] => (p.finish, [])
  | t :: ts =>
    match p.step t with
    | .ok p' => readFrom p' ts
    | .error e => (.error e, t :: ts)

/-- The statements of a list of tokens, and the tokens that were not accepted. -/
def readStatements (ts : List Token) : Except SyntaxError (List Statement) × List Token :=
  readFrom {} ts

/-- The outcomes of reading again and again, each time from where the last reading stopped. -/
def readRepeatedly : Nat → List Token → List (Except SyntaxError (List Statement))
  | 0, _ => []
  | n + 1, ts =>
    let (outcome, rest) := readStatements ts
    outcome :: readRepeatedly n rest

/-- The statements of a template. -/
def parse (template : String) : Except SyntaxError (List Statement) :=
  (readStatements (tokenize template)).1

/-! ## Reading piece by piece -/

/-- The progress after a list of tokens that are all accepted. -/
def advance (p : Progress) : List Token → Except SyntaxError Progress
  | [] => .ok p
  | t :: ts =>
    match p.step t with
    | .ok p' => advance p' ts
    | .error e => .error e

/-- Reading goes on behind tokens that are all taken. -/
theorem readFrom_append_of_advance {p p' : Progress} {ts us : List Token}
    (h : advance p ts = .ok p') : readFrom p (ts ++ us) = readFrom p' us := by
  induction ts generalizing p with
  | nil =>
    obtain rfl : p = p' := by simpa [advance] using h
    rfl
  | cons t ts ih =>
    rw [List.cons_append, readFrom]
    rw [advance] at h
    cases hq : p.step t with
    | error e => simp [hq] at h
    | ok q =>
      rw [hq] at h
      exact ih h

end Scaffold.Template
