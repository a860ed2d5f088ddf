import Scaffold.FileSystem.Basic
import Scaffold.FileSystem.Failure
import Scaffold.Text.Blank
import Scaffold.Text.Utf8

/-!
# Other programs

The program runs others. What these do is up to the system: it depends on the files and on the input, which
another program may read as well, unless it is given one of its own.

* `Seconds`: a number of seconds, and its text.
* `Command`: a program with its arguments, and what it is given besides.
* `Launched`, `Launcher`: what the system makes of a command, and a system that does.
* `Command.report`: what a command comes to for the one who has run it.
* `run`: a command run by a launcher.
-/

namespace Scaffold.Subprocess

/-! ## Time -/

/-- A number of seconds: a sign and digits, taken times a power of ten. -/
structure Seconds where
  negative : Bool := false
  digits : Nat
  scale : Int := 0
  /-- It was given as a whole number, and is shown as one. -/
  whole : Bool := true
  deriving DecidableEq, Repr

namespace Seconds

/-- The powers of ten of the first digit from which on a number is shown with a power of ten. -/
def largePower : Int := 16

/-- The powers of ten of the first digit below which a number is shown with a power of ten. -/
def smallPower : Int := -4

/-- Digits with a point behind the first of them, if others follow. -/
def pointed : List Char → List Char
  | [] => []
  | [d] => [d]
  | d :: ds => d :: '.' :: ds

/-- Digits that stand before the power of ten, of which the first one has a power of ten. -/
def shownDigits (ds : List Char) (power : Int) : List Char :=
  if power < smallPower ∨ largePower ≤ power then
    let exponent := Nat.toDigits 10 power.natAbs
    pointed ds ++ ['e', if power < 0 then '-' else '+'] ++
      List.replicate (2 - exponent.length) '0' ++ exponent
  else if power < 0 then
    ['0', '.'] ++ List.replicate (power.natAbs - 1) '0' ++ ds
  else
    let count := power.toNat + 1
    let ds := ds ++ List.replicate (count - ds.length) '0'
    let fraction := ds.drop count
    ds.take count ++ '.' :: if fraction = [] then ['0'] else fraction

/-- The text of a number of seconds: as few digits as write it, and one behind the point at least,
unless it was given as a whole number. -/
def describe (t : Seconds) : String :=
  let sign := if t.negative then ['-'] else []
  let ds := Nat.toDigits 10 t.digits
  let shown :=
    if t.whole then ds ++ List.replicate t.scale.toNat '0'
    else if t.digits = 0 then ['0', '.', '0']
    else
      let kept := (ds.reverse.dropWhile (· = '0')).reverse
      shownDigits kept (Int.ofNat ds.length + t.scale - 1)
  String.ofList (sign ++ shown)

/-- Time in millionths of a second has reached a number of seconds. -/
def reachedBy (t : Seconds) (elapsed : Nat) : Bool :=
  t.negative ||
    t.digits * Nat.pow 10 t.scale.toNat * 1000000 ≤ elapsed * Nat.pow 10 (-t.scale).toNat

end Seconds

/-! ## Commands -/

/-- A program with its arguments, and what it is given besides. -/
structure Command where
  /-- The program and its arguments. -/
  words : List String
  /-- The directory that it is run in, unless that is the working directory. -/
  directory : String := ""
  /-- Variables that it sees in addition. -/
  environment : List (String × String) := []
  /-- The time after which it is stopped. -/
  deadline : Option Seconds := none
  /-- What it prints is caught; otherwise it is printed with all the rest. -/
  caught : Bool := true
  deriving DecidableEq, Repr

/-- Why a command cannot be run, when that is no matter of the command itself. -/
inductive Refusal where
  | system (fault : Fault) (subject : String)
  | nullCharacter
  deriving DecidableEq, Repr

/-- The wording of a refusal. -/
def Refusal.message : Refusal → String
  | .system fault subject => fault.message subject
  | .nullCharacter => Failure.nullCharacter.message

/-- How a command that the system is given ends. -/
inductive Ending where
  /-- There is no such program, or no such directory to run it in. -/
  | missing (reason : String)
  /-- Its time was up. -/
  | late
  /-- It was not run for another reason. -/
  | refused (reason : Refusal)
  /-- It came to its end, with an exit code, or the number of the signal that killed it with a minus
  sign. What it printed is there if it was caught. -/
  | ended (code : Int) (output errors : List UInt8)
  deriving DecidableEq, Repr

/-- What the system makes of a command. -/
structure Launched where
  ending : Ending
  /-- What was printed that was not caught. -/
  printed : String := ""
  /-- The lines of the input that have not been read. -/
  unread : List String
  deriving DecidableEq, Repr

/-- What runs commands: what comes of each for some files and some lines of input. The files are taken to
be left as they are. -/
abbrev Launcher := FileSystem → Command → List String → Launched

/-! ## Reports -/

/-- What a command comes to. The code is minus one if it does not come to an end of its own. -/
structure Report where
  code : Int
  output : String
  errors : String
  deriving DecidableEq, Repr

/-- A command has come to its end without complaint. -/
def Report.succeeded (r : Report) : Bool :=
  r.code == 0

/-- A text as it is reported: without blanks at its ends. -/
def reportText (bs : List UInt8) : String :=
  Text.strip (Text.Utf8.decodeLossy bs)

/-- What is said of a command whose time was up. -/
def Command.lateMessage (c : Command) : String :=
  "Command timed out after " ++ (c.deadline.map Seconds.describe).getD "" ++ "s: " ++
    " ".intercalate c.words

/-- What a command comes to, or why it could not be run. That there is no such program or directory is
reported, and so is that its time was up. -/
def Command.report (c : Command) : Ending → Except Refusal Report
  | .missing reason => .ok ⟨-1, "", reason⟩
  | .late => .ok ⟨-1, "", c.lateMessage⟩
  | .refused reason => .error reason
  | .ended code output errors => .ok ⟨code, reportText output, reportText errors⟩

/-- A command run without input. -/
def run (launcher : Launcher) (fs : FileSystem) (c : Command) : Except Refusal Report :=
  c.report (launcher fs c []).ending

/-- The command that asks a program for its version. -/
def versionCommand (tool : String) (question : String := "--version") : Command :=
  { words := [tool, question] }

end Scaffold.Subprocess
