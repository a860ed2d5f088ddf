import Scaffold.Shell.Command
import Scaffold.Shell.Escape
import Scaffold.FileSystem.Access

/-!
# The machine that runs commands

Commands run on a machine: files, variables, and channels that they read from and print to. A
command changes the machine and leaves an exit code.

* `Machine`: the state that commands change.
* `Machine.print`, `Machine.takeInput`, `Machine.takeLine`: printing and reading.
* `Answer`: what a program does: what it prints, its exit code, and how long it takes.
* `Machine.settle`: the effect of an answer.
-/

namespace Scaffold.Shell

/-! ## Channels -/

/-- Where bytes are printed to. -/
inductive Sink where
  /-- A stream of the machine. -/
  | stream (i : Nat)
  | file (l : Location)
  | nowhere
  deriving DecidableEq, Repr

/-- What a descriptor stands for. -/
inductive Channel where
  /-- An input of the machine. -/
  | input (i : Nat)
  | output (sink : Sink)
  deriving DecidableEq, Repr

/-! ## The state -/

/-- A variable of the shell; if it is exported, other programs see it. -/
structure Variable where
  name : String
  /-- There may be no value yet. -/
  value : Option String
  exported : Bool := false
  fixed : Bool := false
  deriving DecidableEq, Repr

/-- How commands end before they are through. -/
inductive Ending where
  | exited
  | killed (signal : Nat)
  /-- Some loops are left, the last of them perhaps only for its next round. -/
  | left (loops : Nat) (again : Bool)
  /-- A function is left. -/
  | returned
  /-- There is no end. -/
  | endless
  deriving DecidableEq, Repr

/-- The state that commands change. Time is measured in millionths of a second. -/
structure Machine where
  files : FileSystem
  environment : List Variable := []
  functions : List (String × Command) := []
  /-- The name of the shell. -/
  name : String := "sh"
  /-- The arguments of the script. -/
  arguments : List String := []
  /-- The letters of the options that are set. -/
  options : List Char := []
  /-- The exit code of the last command. -/
  status : Nat := 0
  /-- The exit code of the last script whose output was put into a word. -/
  outputStatus : Nat := 0
  /-- The exit code of what was last run in the background. -/
  backgroundStatus : Option Nat := none
  /-- What is run on a signal, by its name, and at the end. -/
  traps : List (String × String) := []
  /-- The signals that were caught and are not yet answered. -/
  caught : List String := []
  /-- What the descriptors stand for. -/
  channels : List (Nat × Channel) :=
    [(0, .input 0), (1, .output (.stream 0)), (2, .output (.stream 1))]
  /-- What is left of each input. -/
  inputs : List Bytes := [[]]
  /-- What was printed to each stream, the last byte first. -/
  written : List Bytes := [[], []]
  elapsed : Nat := 0
  ending : Option Ending := none
  /-- The line of the command that is run. -/
  line : Nat := 1
  /-- The command of the shell that is run. -/
  caller : Option String := none
  /-- The number of loops and of functions that are run. -/
  loops : Nat := 0
  depth : Nat := 0
  /-- The variables to be restored at the end of each function. -/
  hidden : List (List (String × Option Variable)) := []
  /-- How many characters of an argument with options have been looked at. -/
  optionPlace : Nat := 0
  /-- The directory that the shell says it is in. -/
  place : String := "/"

namespace Machine

/-! ## Variables -/

/-- The number of the process of the shell. -/
def process : String := "1000"

/-- The number of the process that was last started in the background. -/
def backgroundProcess : String := "1001"

/-- A variable, if there is one of a name. -/
def find? (m : Machine) (name : String) : Option Variable :=
  m.environment.find? (·.name == name)

/-- The value of a variable, if it has one. -/
def get? (m : Machine) (name : String) : Option String :=
  (m.find? name).bind Variable.value

/-- The value of a variable; empty if there is none. -/
def get (m : Machine) (name : String) : String :=
  (m.get? name).getD ""

/-- A variable in the place of the one of its name. -/
def putVariable (m : Machine) (v : Variable) : Machine :=
  { m with environment := v :: m.environment.filter (·.name != v.name) }

/-- An option is set. -/
def hasOption (m : Machine) (letter : Char) : Bool :=
  m.options.contains letter

/-- A variable given a value. -/
def set (m : Machine) (name value : String) : Machine :=
  let old := (m.find? name).getD { name, value := none }
  m.putVariable { old with value := some value, exported := old.exported || m.hasOption 'a' }

/-- A variable made visible to other programs. -/
def exportVariable (m : Machine) (name : String) : Machine :=
  m.putVariable { (m.find? name).getD { name, value := none } with exported := true }

/-- A variable whose value cannot be changed any more. -/
def fixVariable (m : Machine) (name : String) : Machine :=
  m.putVariable { (m.find? name).getD { name, value := none } with fixed := true }

/-- A variable taken away. -/
def unset (m : Machine) (name : String) : Machine :=
  { m with environment := m.environment.filter (·.name != name) }

/-- A variable cannot be changed. -/
def isFixed (m : Machine) (name : String) : Bool :=
  (m.find? name).any Variable.fixed

/-- What other programs see of the variables, in the order of their names. -/
def visible (m : Machine) : List (String × String) :=
  let pairs := m.environment.filterMap fun v =>
    if v.exported then v.value.map (v.name, ·) else none
  pairs.mergeSort fun a b => decide (a.1 ≤ b.1)

/-- The directory that the machine is in. -/
def directory (m : Machine) : String :=
  "/" ++ "/".intercalate m.files.workingDirectory

/-! ## Ends -/

/-- The last command ended with an exit code. -/
def exit (m : Machine) (status : Nat) : Machine :=
  { m with status := status }

/-- No more commands are run. -/
def finish (m : Machine) (e : Ending) : Machine :=
  { m with ending := some e }

/-- Commands are still run. -/
def goesOn (m : Machine) : Bool :=
  m.ending.isNone

/-! ## Channels -/

/-- What a descriptor stands for. -/
def channel? (m : Machine) (descriptor : Nat) : Option Channel :=
  m.channels.lookup descriptor

/-- A descriptor led elsewhere, or closed. -/
def lead (m : Machine) (descriptor : Nat) (c : Option Channel) : Machine :=
  let others := m.channels.filter (·.1 ≠ descriptor)
  { m with channels := c.elim others fun c => (descriptor, c) :: others }

/-- Where a descriptor prints to. -/
def sinkOf (m : Machine) (descriptor : Nat) : Sink :=
  match m.channel? descriptor with
  | some (.output sink) => sink
  | _ => .nowhere

/-- Prints bytes. -/
def printTo (m : Machine) (sink : Sink) (bs : Bytes) : Machine :=
  match sink with
  | .nowhere => m
  | .stream i => { m with written := m.written.modify i (bs.reverse ++ ·) }
  | .file l =>
    match m.files.get? l with
    | some (.file content) =>
      { m with files := m.files.put l (.file (content ++ ⟨bs.toArray⟩)) }
    | _ => m

/-- A descriptor leads to where bytes can be printed. -/
def prints (m : Machine) (descriptor : Nat) : Bool :=
  m.channel? descriptor matches some (.output _)

/-- What was printed to a stream. -/
def printed (m : Machine) (stream : Nat) : Bytes :=
  (m.written.getD stream []).reverse

/-- Prints bytes to a descriptor. -/
def print (m : Machine) (descriptor : Nat) (bs : Bytes) : Machine :=
  m.printTo (m.sinkOf descriptor) bs

/-- A new input, which is given its number. -/
def addInput (m : Machine) (bs : Bytes) : Nat × Machine :=
  (m.inputs.length, { m with inputs := m.inputs ++ [bs] })

/-- The input that a descriptor reads from. -/
def inputOf (m : Machine) (descriptor : Nat) : Bytes :=
  match m.channel? descriptor with
  | some (.input i) => m.inputs.getD i []
  | _ => []

/-- The input that a descriptor reads from, of which only some bytes are left. -/
def leaveInput (m : Machine) (descriptor : Nat) (left : Bytes) : Machine :=
  match m.channel? descriptor with
  | some (.input i) => { m with inputs := m.inputs.set i left }
  | _ => m

/-- The next line of the input without its line end, and whether there was one. -/
def takeLine (m : Machine) : (Bytes × Bool) × Machine :=
  let bs := m.inputOf 0
  let line := bs.takeWhile (· ≠ 0x0A)
  let left := bs.drop line.length
  ((line, left ≠ []), m.leaveInput 0 (left.drop 1))

/-! ## Complaints -/

/-- Prints a line about something that is wrong; the last command ends with an exit code. -/
def fail (m : Machine) (line : String) (status : Nat) : Machine :=
  (m.print 2 (bytesOf (line ++ "\n"))).exit status

/-- How complaints of the shell start. -/
def complaintStart (m : Machine) : String :=
  let caller := match m.caller with
    | some caller => caller ++ ": "
    | none => ""
  m.name ++ ": " ++ toString m.line ++ ": " ++ caller

/-- The shell complains about something; the last command ends with an exit code. -/
def complain (m : Machine) (message : String) (status : Nat) : Machine :=
  m.fail (m.complaintStart ++ message) status

/-- The shell complains about something and is left. -/
def abort (m : Machine) (message : String) : Machine :=
  (m.complain message 2).finish .exited

end Machine

/-! ## Answers -/

/-- What a program does. -/
structure Answer where
  output : Bytes := []
  errors : Bytes := []
  status : Nat := 0
  pause : Nat := 0
  /-- The files afterwards, if they change. -/
  files : Option FileSystem := none
  /-- What is left of the input, if it is read. -/
  left : Option Bytes := none

/-- An answer that only prints a text. -/
def Answer.saying (text : String) : Answer :=
  { output := bytesOf text }

/-- An answer that complains and fails. -/
def Answer.failing (message : String) (status : Nat) : Answer :=
  { errors := bytesOf (message ++ "\n"), status := status }

/-- An answer that complains besides if its output cannot be printed; `status` is the exit code for
that. -/
def Answer.checked (m : Machine) (complaint : String) (status : Nat) (a : Answer) : Answer :=
  if a.output = [] ∨ m.prints 1 then a
  else { a with errors := a.errors ++ bytesOf (complaint ++ "\n"), status := a.status ||| status }

/-- The effect of an answer. -/
def Machine.settle (m : Machine) (a : Answer) : Machine :=
  let m := { m with
    files := a.files.getD m.files
    status := a.status
    elapsed := m.elapsed + a.pause }
  let m := match a.left with
    | some left => m.leaveInput 0 left
    | none => m
  (m.print 1 a.output).print 2 a.errors

end Scaffold.Shell
