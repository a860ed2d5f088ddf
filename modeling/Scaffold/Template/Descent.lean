import Scaffold.Template.Error
import Scaffold.Template.Statement

/-!
# Statements by descent

The second way to read tokens: one procedure for each rule of the grammar. They call each other and
share a cursor, which only moves forward and stays where a reading is given up.

* `Refusal`: why a reading is given up. The procedures look at the current token in more places than
  can be reached with an unsuitable one, so there are more refusals than errors.
* `readStatement`, `readBlock`, `readConditional`: the procedures.
* `Reader`: tokens with a cursor. `Reader.read` reads on from the cursor; it may be called again,
  whatever came of the last call.
-/

namespace Scaffold.Template

/-! ## Refusals -/

/-- Why a reading is given up. -/
inductive Refusal where
  /-- An invalid character stands at a position. -/
  | invalidCharacter (value : String) (position : Int)
  /-- A token stands where a statement should start. -/
  | unexpected (token : Token)
  /-- After `if`, or `if` and `!`, something other than a variable was found. -/
  | missingCondition (found : Option Token)
  /-- The branches of a conditional are read, and something other than `endif` was found. -/
  | missingEnd (found : Option Token)
  /-- A statement was to be read behind the last token. -/
  | missingStatement
  deriving DecidableEq, Repr

/-- The wording of a refusal. -/
def Refusal.message : Refusal → String
  | .invalidCharacter value position =>
    complaint ++ "invalid token " ++ value ++ " at " ++ toString position
  | .unexpected token => complaint ++ "unexpected token: " ++ token.describe
  | .missingCondition found => complaint ++ "expected variable after if, found: " ++ describe? found
  | .missingEnd found => complaint ++ "expected endif, found: " ++ describe? found
  | .missingStatement => complaint ++ "unexpected end of input"

/-- The token that a refusal carries besides its wording. -/
def Refusal.token? : Refusal → Option Token
  | .unexpected token => some token
  | .missingCondition found | .missingEnd found => found
  | .invalidCharacter _ _ | .missingStatement => none

/-- The refusal for an error. -/
def SyntaxError.refusal : SyntaxError → Refusal
  | .invalidCharacter value position => .invalidCharacter value position
  | .unexpected token => .unexpected token
  | .missingCondition found => .missingCondition found
  | .unclosed => .missingEnd none

/-- The refusal for an error is worded as the error is. -/
theorem SyntaxError.message_refusal (e : SyntaxError) : e.refusal.message = e.message := by
  cases e <;> rfl

/-! ## Places -/

/-- A refusal, and the place of the cursor when it comes up. -/
structure GivenUp where
  refusal : Refusal
  cursor : Nat
  deriving DecidableEq, Repr

/-- A place further on than another one, and at most behind the last token. -/
abbrev Behind (ts : List Token) (i : Nat) : Type :=
  { j : Nat // i < j ∧ j ≤ ts.length }

/-- The token at a place is of one of the kinds. -/
def standsAt (ts : List Token) (i : Nat) (kinds : List Token.Kind) : Bool :=
  match ts[i]? with
  | some t => t.kind ∈ kinds
  | none => false

/-- A place where a token stands is among the tokens. -/
theorem lt_length_of_standsAt {ts : List Token} {i : Nat} {kinds : List Token.Kind}
    (h : standsAt ts i kinds = true) : i < ts.length := by
  unfold standsAt at h
  split at h
  · exact (List.getElem?_eq_some_iff.mp ‹_›).1
  · cases h

/-- The place behind the brackets that stand at a place. -/
def skipBrackets (ts : List Token) (i : Nat) : Nat :=
  if h : standsAt ts i [.openBracket, .closeBracket] then skipBrackets ts (i + 1) else i
termination_by ts.length - i
decreasing_by
  have := lt_length_of_standsAt h
  omega

/-- Skipping brackets does not go back. -/
theorem le_skipBrackets (ts : List Token) (i : Nat) : i ≤ skipBrackets ts i := by
  fun_induction skipBrackets ts i <;> omega

/-! ## The procedures -/

/-- Reads the variable of a condition. -/
def readName (ts : List Token) (i : Nat) : Except GivenUp (String × Behind ts i) :=
  match h : ts[i]? with
  | none => .error ⟨.missingCondition none, i⟩
  | some t =>
    have hi : i < ts.length := (List.getElem?_eq_some_iff.mp h).1
    match t.kind with
    | .invalid => .error ⟨.invalidCharacter t.value t.position, i⟩
    | .variable => .ok (t.value, ⟨i + 1, by omega⟩)
    | _ => .error ⟨.missingCondition (some t), i⟩

/-- Reads the condition behind an `if`: whether it is negated, and its variable. -/
def readCondition (ts : List Token) (i : Nat) :
    Except GivenUp (String × Bool × Behind ts i) :=
  if standsAt ts i [.bang] then do
    let (name, ⟨j, hj⟩) ← readName ts (i + 1)
    return (name, true, ⟨j, by omega⟩)
  else do
    let (name, j) ← readName ts i
    return (name, false, j)

/-- Reads the end of a conditional, and answers with it. -/
def readEnd (s : Statement) (ts : List Token) (i : Nat) :
    Except GivenUp (Statement × Behind ts i) :=
  if h : standsAt ts i [.endifWord] then
    .ok (s, ⟨i + 1, by have := lt_length_of_standsAt h; omega⟩)
  else .error ⟨.missingEnd ts[i]?, i⟩

mutual

/-- Reads a statement. -/
def readStatement (ts : List Token) (i : Nat) : Except GivenUp (Statement × Behind ts i) :=
  let k := skipBrackets ts i
  have hik : i ≤ k := le_skipBrackets ts i
  match h : ts[k]? with
  | none => .error ⟨.missingStatement, k⟩
  | some t =>
    have hk : k < ts.length := (List.getElem?_eq_some_iff.mp h).1
    match t.kind with
    | .invalid => .error ⟨.invalidCharacter t.value t.position, k⟩
    | .text => .ok (.text t.value, ⟨k + 1, by omega⟩)
    | .variable => .ok (.variable t.value, ⟨k + 1, by omega⟩)
    | .ifWord => do
      let (s, ⟨j, hj⟩) ← readConditional ts k
      return (s, ⟨j, by omega⟩)
    | _ => .error ⟨.unexpected t, k⟩
termination_by (ts.length - i, 1)
decreasing_by all_goals omega

/-- Reads statements up to a token of one of the kinds, or to the end. -/
def readBlock (ends : List Token.Kind) (ts : List Token) (i : Nat) :
    Except GivenUp (List Statement × { j : Nat // i ≤ j }) :=
  let k := skipBrackets ts i
  have hik : i ≤ k := le_skipBrackets ts i
  if ts[k]? = none ∨ standsAt ts k ends then .ok ([], ⟨k, hik⟩)
  else do
    let (s, ⟨j, hj⟩) ← readStatement ts k
    let (ss, ⟨l, hl⟩) ← readBlock ends ts j
    return (s :: ss, ⟨l, by omega⟩)
termination_by (ts.length - i, 2)
decreasing_by all_goals omega

/-- Reads the conditional whose `if` stands at a place. -/
def readConditional (ts : List Token) (i : Nat) : Except GivenUp (Statement × Behind ts i) := do
  let (name, negated, ⟨j, hj⟩) ← readCondition ts (i + 1)
  let (T, ⟨k, hk⟩) ← readBlock [.elseWord, .endifWord] ts j
  if standsAt ts k [.elseWord] then
    let (F, ⟨l, hl⟩) ← readBlock [.endifWord] ts (k + 1)
    let (s, ⟨m, hm⟩) ← readEnd (.conditional name negated T (some F)) ts l
    return (s, ⟨m, by omega⟩)
  else
    let (s, ⟨m, hm⟩) ← readEnd (.conditional name negated T none) ts k
    return (s, ⟨m, by omega⟩)
termination_by (ts.length - i, 0)
decreasing_by all_goals omega

end

/-! ## Readers -/

/-- Tokens, and how many of them have been passed. -/
structure Reader where
  tokens : List Token
  cursor : Nat := 0
  deriving DecidableEq, Repr

/-- Reads all statements from the cursor on. -/
def Reader.read (r : Reader) : Except Refusal (List Statement) × Reader :=
  match readBlock [] r.tokens r.cursor with
  | .ok (ss, ⟨j, _⟩) => (.ok ss, { r with cursor := j })
  | .error e => (.error e.refusal, { r with cursor := e.cursor })

/-- The reader after some readings. -/
def Reader.after : Nat → Reader → Reader
  | 0, r => r
  | n + 1, r => (r.after n).read.2

end Scaffold.Template
