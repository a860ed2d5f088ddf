import Scaffold.Console.Prompt
import Scaffold.Subprocess
import Scaffold.Settings.Environment
import Scaffold.Tree.Workspace

/-!
# Sessions

A session is what the program and its user have come to: the files, the input that is still to be
read, and what has been printed. A step of a session ends with an answer or stops the session, and
either way what was done before stays done.

* `Surroundings`: what the program finds where it is run.
* `Session`, `Stop`: the state of a session, and why it may stop.
* `Act`: a step of a session.
* `Act.print`, `Act.ask`, `Act.work`, `Act.launch`: printing, asking the user, working on the files, running
  another program.
-/

namespace Scaffold.CommandLine

open Scaffold.Tree

/-! ## Surroundings -/

/-- What the program finds where it is run. -/
structure Surroundings where
  environment : Environment := []
  /-- The name of the user, if it can be told. -/
  user : Option String := none
  /-- The program is run on macOS. -/
  isMac : Bool := false
  /-- What runs other programs. -/
  launcher : Subprocess.Launcher := fun _ _ input => { ending := .ended 0 [] [], unread := input }
  /-- The directory of the bundled templates. -/
  bundledTemplates : Path

/-! ## Sessions -/

/-- How much of what is done is told. -/
inductive Detail where
  /-- Only warnings. -/
  | warnings
  /-- Every event. -/
  | everything
  deriving DecidableEq, Repr

/-- The state of a session. -/
structure Session where
  /-- The files, and what was noted while working on them. -/
  workspace : Workspace
  /-- The lines of the input that are still to be read. -/
  input : List String := []
  /-- What has been printed. -/
  output : String := ""
  /-- What has been printed about the use of the program. -/
  complaints : String := ""
  /-- How much is told, once that is settled. -/
  detail : Option Detail := none
  /-- The answer of the user to the question whether files may be overwritten, if it was asked. -/
  consent : Option Bool := none
  /-- The commands that have been run. -/
  commands : List Subprocess.Command := []
  deriving DecidableEq

/-- A session after another program has been run: what it has printed is there, and what it has read of the
input is gone. -/
def Session.after (s : Session) (c : Subprocess.Command) (launched : Subprocess.Launched) : Session :=
  { s with
    output := s.output ++ launched.printed
    input := launched.unread
    commands := s.commands ++ [c] }

/-- Why a session stops. -/
inductive Stop where
  /-- The project cannot be made. -/
  | problem (problem : Problem)
  /-- The input ended before an answer. -/
  | endOfInput
  /-- The settings do not fit. -/
  | misfits (misfits : List Settings.Misfit)
  /-- A text that should be shown holds a tag that closes nothing. -/
  | markup (error : Console.MarkupError)
  /-- Another program cannot be run. -/
  | refusal (reason : Subprocess.Refusal)
  deriving DecidableEq, Repr

/-- A step of a session. -/
abbrev Act := EStateM Stop Session

namespace Act

/-! ## Steps -/

/-- Prints a text. -/
def print (text : String) : Act Unit :=
  modify fun s => { s with output := s.output ++ text }

/-- Prints a text about the use of the program. -/
def complain (text : String) : Act Unit :=
  modify fun s => { s with complaints := s.complaints ++ text }

/-- A text with markup, unless that is faulty. -/
def marked {α : Type} : Except Console.MarkupError α → Act α
  | .ok a => return a
  | .error e => throw (.markup e)

/-- Asks the user a question, which takes its answer from the lines of the input. -/
def ask {α : Type} (question : List String → Except Console.MarkupError (Console.Reply α)) :
    Act α := do
  let reply ← marked (question (← get).input)
  modify fun s => { s with output := s.output ++ reply.printed, input := reply.rest }
  match reply.answer with
  | some a => return a
  | none => throw .endOfInput

/-- Works on the files. -/
def work {α : Type} (w : Work α) : Act α := fun s =>
  match w s.workspace with
  | .ok a ws => .ok a { s with workspace := ws }
  | .error p ws => .error (.problem p) { s with workspace := ws }

/-- A report on another program, unless that cannot be run. -/
def reported : Except Subprocess.Refusal Subprocess.Report → Act Subprocess.Report
  | .ok report => return report
  | .error reason => throw (.refusal reason)

/-- Runs another program, which may read from the input as well. -/
def launch (launcher : Subprocess.Launcher) (c : Subprocess.Command) : Act Subprocess.Report := do
  let s ← get
  let launched := launcher s.workspace.files c s.input
  modify (·.after c launched)
  reported (c.report launched.ending)

end Act

end Scaffold.CommandLine
