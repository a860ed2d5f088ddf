import Scaffold.CommandLine.Run
import Scaffold.Tree.Bundled

/-!
# The program

The outer layer of the program: it runs a session on the files that it knows of, and carries out
what the session comes to. A session that stops for want of input is run again with one line more.
A directory that is there already is taken to hold something; new files are written into it, and
what else it holds is left alone.
-/

namespace Scaffold.Main

open CommandLine

/-! ## What the session is told -/

/-- Something that can be opened lies at a path. -/
def canOpen (path : String) : IO Bool := do
  try
    let _ ← IO.FS.Handle.mk path .read
    return true
  catch _ => return false

/-- The text of an environment variable; empty if there is none. -/
def textOf (name : String) : IO String := do
  return (← IO.getEnv name).getD ""

/-- The location of the bundled templates, which exist in memory only. -/
def bundledLocation : Location := ["bundled templates"]

/-- The names of the environment variables that the settings are taken from. -/
def settingNames : List String :=
  ["VELOX_TEMPLATES_DIR", "VELOX_PATH", "VELOX_SKIP_BOOTSTRAP"]

/-- The names of the environment variables that may tell the name of the user. -/
def userNames : List String :=
  ["LOGNAME", "USER", "LNAME", "USERNAME"]

/-- Stands in for other programs, which are looked for, but not run: a program that is there succeeds, and
takes no notice of the input. -/
def pretending (isThere : Bool) : Subprocess.Launcher := fun _ c input =>
  let tool := c.words.headD ""
  let ending : Subprocess.Ending :=
    if isThere && tool == "swift" then .ended 0 [] [] else .missing (Fault.noEntry.message tool)
  { ending, unread := input }

/-- What the program finds where it is run. -/
def surroundings : IO Surroundings := do
  let environment ← settingNames.mapM fun name => return (name, ← textOf name)
  let users ← userNames.mapM textOf
  let places := (← textOf "PATH").splitOn ":"
  return {
    environment := environment.filter (·.2 ≠ "")
    user := users.find? (· ≠ "")
    isMac := ← canOpen "/System/Library/CoreServices"
    launcher := pretending (← places.anyM fun d => canOpen (d ++ "/swift"))
    bundledTemplates := ⟨.root, bundledLocation⟩ }

/-- The files that a session starts with: the bundled templates, the working directory, and
directories that are known to hold something. -/
def startFiles (here : Path) (occupied : List Path) : FileSystem :=
  let bundled := Tree.Bundled.install {} bundledLocation
  let fs := (bundled.makeDirectories true here).2
  let fs := occupied.foldl (fun fs d => (fs.makeDirectories true (d.child "unknown")).2) fs
  { fs with workingDirectory := here.names }

/-! ## What the session comes to -/

/-- The directory that a session has written a project to. -/
def target? (s : Session) : Option Path :=
  s.workspace.events.findSome? fun
    | .wrote _ output => some output
    | _ => none

/-- Writes the files of a session that are new. -/
def writeNew (before after : FileSystem) : IO Unit := do
  for (l, e) in after.below [] do
    if before.get? ((Path.ofString l).names) ≠ some e then
      match e with
      | .directory => IO.FS.createDirAll ("/" ++ l)
      | .file content => IO.FS.writeBinFile ("/" ++ l) content
      | .link _ => pure ()

/-- Carries out a session that has ended. The answer is the exit code. -/
def conclude (before : FileSystem) (s : Session) (code : UInt32) : IO UInt32 := do
  writeNew before s.workspace.files
  if s.detail = some .everything then
    for e in s.workspace.events do IO.eprintln e.message
  IO.eprint s.complaints
  return code

/-- Runs a session, again and again until it needs no more input; `shown` counts the characters of
its output that have been shown. -/
partial def runSession (around : Surroundings) (here : Path) (arguments : List String)
    (occupied : List Path) (input : List String) (shown : Nat) : IO UInt32 := do
  let files := startFiles here occupied
  let result := (perform around here arguments).run { workspace := { files := files }, input }
  let display (s : Session) : IO Unit := do
    IO.print (String.ofList (s.output.toList.drop shown))
    (← IO.getStdout).flush
  match result with
  | .ok outcome s =>
    match target? s with
    | some d =>
      if !occupied.contains d && (← canOpen d.toString) then
        return ← runSession around here arguments (d :: occupied) input shown
    | none => pure ()
    display s
    conclude files s (match outcome with
      | .finished => 0
      | .exit code => UInt32.ofNat code)
  | .error .endOfInput s =>
    display s
    let line ← (← IO.getStdin).getLine
    if line = "" then
      IO.eprintln "EOF when reading a line"
      conclude files s 1
    else
      let line := if line.endsWith "\n" then String.ofList line.toList.dropLast else line
      runSession around here arguments occupied (input ++ [line]) s.output.length
  | .error (.problem p) s =>
    display s
    IO.eprintln p.message
    conclude files s 1
  | .error (.markup e) s =>
    display s
    IO.eprintln e.message
    conclude files s 1
  | .error (.refusal r) s =>
    display s
    IO.eprintln r.message
    conclude files s 1
  | .error (.misfits _) s =>
    display s
    conclude files s 1

end Scaffold.Main

/-- Runs the program on its arguments. -/
def main (arguments : List String) : IO UInt32 := do
  let here := Scaffold.Path.ofString (← Scaffold.Main.textOf "PWD")
  Scaffold.Main.runSession (← Scaffold.Main.surroundings) ⟨.root, here.names⟩ arguments [] [] 0
