import Scaffold.Template.Scanner

/-!
# Tokens on demand

A scanner hands out its tokens one at a time, or all that are left at once. It may be called in any
order, also after the last token.

* `Scanner.advance`: the next token, and the scanner as it stands then.
* `Scanner.drain`: the tokens that are left, one after another until there is none.
* `Scanner.Call`, `Scanner.Answer`: what a scanner is asked for, and what it answers.
* `Scanner.run`: calls in a row.
-/

namespace Scaffold.Template

namespace Scanner

/-! ## One token, and all of them -/

/-- The next token, if there is one, and the scanner as it stands then. Inside of a directive the
blanks are passed over even if no token comes behind them. -/
def advance (s : Scanner) : Option Token × Scanner :=
  match s.next? with
  | some (t, s') => (some t, s')
  | none => (none, if s.inside then s.skipBlanks else s)

/-- The next token uses up some of the text. -/
theorem advance_shorter {s s' : Scanner} {t : Token} (h : s.advance = (some t, s')) :
    s'.rest.length < s.rest.length := by
  unfold advance at h
  split at h
  · rename_i hnext
    obtain ⟨ht, rfl⟩ := Prod.mk.inj h
    exact next?_shorter hnext
  · cases h

/-- The tokens that are left, one after another until there is none, and the scanner as it stands
then. -/
def drain (s : Scanner) : List Token × Scanner :=
  match _h : s.advance with
  | (none, s') => ([], s')
  | (some t, s') =>
    let more := s'.drain
    (t :: more.1, more.2)
termination_by s.rest.length
decreasing_by all_goals exact advance_shorter _h

/-! ## Calls -/

/-- What a scanner is asked for. -/
inductive Call where
  /-- The next token. -/
  | next
  /-- Itself, to go through its tokens. -/
  | itself
  /-- The tokens that are left. -/
  | tokens
  deriving DecidableEq, Repr

/-- What a scanner answers. -/
inductive Answer where
  /-- The next token. -/
  | token (t : Token)
  /-- There is no next token. -/
  | stop
  /-- Itself. -/
  | itself
  /-- The tokens that were left. -/
  | tokens (ts : List Token)
  deriving DecidableEq, Repr

/-- What a scanner answers to a call, and the scanner as it stands then. -/
def call (s : Scanner) : Call → Answer × Scanner
  | .next =>
    match s.advance with
    | (some t, s') => (.token t, s')
    | (none, s') => (.stop, s')
  | .itself => (.itself, s)
  | .tokens =>
    let left := s.drain
    (.tokens left.1, left.2)

/-- What a scanner answers to some calls, and the scanner as it stands then. -/
def run (s : Scanner) : List Call → List Answer × Scanner
  | [] => ([], s)
  | c :: cs =>
    let first := s.call c
    let more := first.2.run cs
    (first.1 :: more.1, more.2)

end Scanner

end Scaffold.Template
