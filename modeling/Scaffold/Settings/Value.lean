/-!
# Values of settings

Settings come as a record of values whose kinds are not known beforehand: from a file of settings,
from the environment or from a command line. A `Value` is one of them; it is checked against the
kind that its setting has to be of.

* `Validated`: what a check finds: the thing itself, or everything that is wrong.
* `Value.toText`, `Value.toFlag`, `Value.toTexts`, `Value.toMapping`: the checks.
* `Validated.seq_faults`: of two checks that both fail, the faults of both are kept, in order.
-/

namespace Scaffold.Settings

/-! ## Values -/

/-- A value of a kind that is not known beforehand. The number is `mantissa / 10 ^ exponent`. -/
inductive Value where
  | null
  | flag (b : Bool)
  | number (mantissa : Int) (exponent : Nat)
  | text (s : String)
  | list (members : List Value)
  | record (fields : List (String × Value))
  deriving Inhabited

/-- The kind that a value was expected to be of, or what else is wrong with it. -/
inductive Mistake where
  /-- A text was expected. -/
  | notText
  /-- A flag was expected, or something that can be read as one. -/
  | notFlag
  /-- A text or number does not spell a flag. -/
  | misspelledFlag
  /-- A path was expected. -/
  | notPath
  /-- A record of settings was expected. -/
  | notRecord
  /-- A record of texts was expected. -/
  | notMapping
  /-- A list of names was expected. -/
  | notSet
  deriving DecidableEq, Repr

/-- A step on the way to a value inside a record or list. -/
inductive Step where
  | field (name : String)
  | index (i : Nat)
  deriving DecidableEq, Repr

/-- A mistake and the way to it. -/
structure Misfit where
  location : List Step
  mistake : Mistake
  deriving DecidableEq, Repr

/-! ## Checks -/

/-- What a check finds. -/
inductive Validated (α : Type) where
  | ok (a : α)
  | faults (misfits : List Misfit)

namespace Validated

/-- What is wrong. -/
def misfits {α : Type} : Validated α → List Misfit
  | ok _ => []
  | faults ms => ms

/-- Changes the thing found. -/
def map {α β : Type} (f : α → β) : Validated α → Validated β
  | ok a => ok (f a)
  | faults ms => faults ms

/-- Two checks one after the other; the second is made even if the first fails. -/
def seq {α β : Type} (f : Validated (α → β)) (x : Unit → Validated α) : Validated β :=
  match f, x () with
  | ok f, ok a => ok (f a)
  | ok _, faults ms => faults ms
  | faults ms, x => faults (ms ++ x.misfits)

instance : Applicative Validated where
  pure := ok
  map := map
  seq := seq

/-- What two values miss is listed in order. -/
theorem seq_faults {α β : Type} (ms ms' : List Misfit) :
    (faults ms : Validated (α → β)).seq (fun _ => faults ms') = faults (ms ++ ms') := rfl

/-- A mistake right where the check is made. -/
def mistake {α : Type} (m : Mistake) : Validated α :=
  faults [⟨[], m⟩]

/-- The mistakes of a check made one step further in. -/
def within {α : Type} (step : Step) : Validated α → Validated α
  | ok a => ok a
  | faults ms => faults (ms.map fun m => { m with location := step :: m.location })

/-- A check of every member of a list. -/
def all {α β : Type} (check : α → Validated β) : List α → Validated (List β)
  | [] => ok []
  | a :: as => List.cons <$> check a <*> all check as

end Validated

namespace Value

/-- The value that stands for nothing. -/
def isNull : Value → Bool
  | null => true
  | _ => false

/-- A text. -/
def toText : Value → Validated String
  | text s => .ok s
  | _ => .mistake .notText

/-- The words that spell a flag, whatever their case. -/
def flagWords : List (String × Bool) :=
  [("0", false), ("off", false), ("f", false), ("false", false), ("n", false), ("no", false),
    ("1", true), ("on", true), ("t", true), ("true", true), ("y", true), ("yes", true)]

/-- Ten to the power of an exponent. -/
def powerOfTen (exponent : Nat) : Int :=
  Int.ofNat (Nat.pow 10 exponent)

/-- The bound of the whole numbers that are looked at as flags: two to the power of sixty-three. -/
def wholeLimit : Int := 9223372036854775808

/-- A number that can be looked at as a flag: it is whole and fits into a machine word. -/
def isSmallWhole (mantissa : Int) (exponent : Nat) : Bool :=
  mantissa % powerOfTen exponent = 0 && -wholeLimit * powerOfTen exponent ≤ mantissa &&
    mantissa < wholeLimit * powerOfTen exponent

/-- A flag; a word for one, or the number zero or one, will do. Words are compared without regard
to the case of the twenty-six basic letters. -/
def toFlag : Value → Validated Bool
  | flag b => .ok b
  | number mantissa exponent =>
    if isSmallWhole mantissa exponent then
      if mantissa = 0 then .ok false
      else if mantissa = powerOfTen exponent then .ok true
      else .mistake .misspelledFlag
    else .mistake .notFlag
  | text s =>
    match flagWords.lookup (s.map Char.toLower) with
    | some b => .ok b
    | none => .mistake .misspelledFlag
  | _ => .mistake .notFlag

/-- Nothing, or what another check finds. -/
def toOptional {α : Type} (check : Value → Validated α) : Value → Validated (Option α)
  | null => .ok none
  | v => some <$> check v

/-- Members of a list, each with its index from `i` on. -/
def indexed {α : Type} (i : Nat) : List α → List (Nat × α)
  | [] => []
  | a :: as => (i, a) :: indexed (i + 1) as

/-- A list of texts whose order does not matter. -/
def toTexts : Value → Validated (List String)
  | list members => Validated.all (fun (i, v) => (toText v).within (.index i)) (indexed 0 members)
  | _ => .mistake .notSet

/-- A record of texts. -/
def toMapping : Value → Validated (List (String × String))
  | record fields =>
    Validated.all (fun (k, v) => (fun s => (k, s)) <$> (toText v).within (.field k)) fields
  | _ => .mistake .notMapping

end Value

/-! ## Records -/

/-- A field of a record: the default if it is missing, and else what the check finds. -/
def readField {α : Type} (fields : List (String × Value)) (name : String) (default : α)
    (check : Value → Validated α) : Validated α :=
  match fields.lookup name with
  | none => .ok default
  | some v => (check v).within (.field name)

end Scaffold.Settings
