import Scaffold.Subprocess
import Scaffold.Shell.Evaluate

/-!
# Running commands

Commands run in memory: the shell and the few programs that it knows are what a system runs here in place of
programs of its own.

* `launcher`: what comes of a command.
-/

namespace Scaffold.Shell

open Subprocess

/-- The files as seen from the directory that a command is run in. -/
def enterDirectory (fs : FileSystem) (directory : String) : Except Fault FileSystem :=
  if directory = "" then .ok fs
  else
    match fs.find (.ofString directory) with
    | .ok (l, .directory) => .ok { fs with workingDirectory := l }
    | .ok _ => .error .notDirectory
    | .error (.system fault _) => .error fault
    | .error _ => .error .noEntry

/-- The machine that a command starts on. -/
def startMachine (fs : FileSystem) (environment : List (String × String)) : Machine :=
  let seen := environment.map fun (name, value) =>
    { name, value := some value, exported := true : Variable }
  let m : Machine := { files := fs, environment := seen }
  { (m.set "PWD" m.directory).exportVariable "PWD" with place := m.directory }

/-- The time is up for a machine. -/
def isLate (deadline : Option Seconds) (m : Machine) : Bool :=
  deadline.any fun t => t.reachedBy m.elapsed || m.ending = some .endless

/-- How a program ends that was found. -/
def finish (c : Subprocess.Command) (program : Program) (m : Machine) : Subprocess.Ending :=
  let name := c.words.headD ""
  let m := startProgram runCommand (launch runCommand launchDepth) program name (c.words.drop 1) m
  if isLate c.deadline m then .late
  else
    let code : Int := match m.ending with
      | some (.killed signal) => -signal
      | _ => m.status
    .ended code (m.printed 0) (m.printed 1)

/-- A command cannot be handed to the system. -/
def holdsNull (c : Subprocess.Command) : Bool :=
  let hasNull (s : String) : Bool := s.toList.contains '\x00'
  c.words.any hasNull || hasNull c.directory ||
    c.environment.any fun x => hasNull x.1 || hasNull x.2

/-- How a command ends. -/
def endingOf (fs : FileSystem) (c : Subprocess.Command) : Subprocess.Ending :=
  if holdsNull c then .refused .nullCharacter
  else
    match enterDirectory fs c.directory with
    | .error .noEntry => .missing (Fault.noEntry.message c.directory)
    | .error fault => .refused (.system fault c.directory)
    | .ok fs =>
      let name := c.words.headD ""
      let searchPath := match c.environment.lookup "PATH" with
        | some path => Text.splitOn ':' path
        | none => programDirectories
      match locateProgram fs searchPath name with
      | .error .noEntry => .missing (Fault.noEntry.message name)
      | .error fault => .refused (.system fault name)
      | .ok (_, program) => finish c program (startMachine fs c.environment)

/-- What comes of a command. It is given no input, and changes files in its own memory only. -/
def launcher : Launcher := fun fs c input =>
  { ending := endingOf fs c, unread := input }

end Scaffold.Shell
