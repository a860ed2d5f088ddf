import Scaffold.CommandLine.Arguments
import Scaffold.CommandLine.Guidance
import Scaffold.CommandLine.Usage
import Scaffold.Tree.Catalog
import Scaffold.Tree.Target

/-!
# Making a project

What the program does from its first question to its last word.

* `mayOverwrite`: whether a directory that is not empty may be emptied.
* `bootstrap`: the setting up of a new project.
* `create`: a project made from settings; the answer is an exit code.
* `perform`: all that a command line asks for.
-/

namespace Scaffold.CommandLine

open Scaffold.Tree Terminal

variable [Terminal]

/-! ## Overwriting -/

/-- Whether the directory of a project may be emptied, before the user is asked. -/
inductive Overwriting where
  /-- There is nothing to overwrite. -/
  | nothing
  /-- The settings allow it. -/
  | forced
  /-- The settings forbid it, because nobody is to be asked. -/
  | refused
  /-- The user has to be asked. -/
  | open
  deriving DecidableEq, Repr

/-- Whether the directory of a project may be emptied, as far as files and settings tell. -/
def overwriting (s : Settings) : Work Overwriting := do
  if ← Work.ask .unanswered (·.exists? s.directory) then
    let names ← Work.ask (.ofFailure .useDirectory s.directory) (·.list s.directory)
    return if names = [] then .nothing
      else if s.force then .forced
      else if s.yes then .refused
      else .open
  else
    return .nothing

/-- The question whether a directory that is not empty may be emptied. -/
def overwriteQuestion (s : Settings) : String :=
  let name := if s.isCurrentDirectory then "Current" else s.directory.name
  name ++ " directory is not empty, do you want to overwrite?"

/-- Whether the directory of a project may be emptied; the user is asked if need be. -/
def mayOverwrite (s : Settings) : Act Bool := do
  match ← Act.work (overwriting s) with
  | .nothing | .forced => return true
  | .refused => return false
  | .open =>
    let answer ← Act.ask (confirm (overwriteQuestion s) false)
    modify fun session => { session with consent := some answer }
    return answer

/-! ## Setting up -/

/-- The command that sets up the project in a directory. What it prints is not caught. -/
def bootstrapCommand (project : Path) : Subprocess.Command :=
  { words := ["make", "bootstrap"], directory := project.toString, caught := false }

/-- Sets up a project by `make` on macOS, if it has a makefile. The answer says whether that was
done. -/
def bootstrap (around : Surroundings) (s : Settings) (project : Path) : Act Bool := do
  if !(s.runBootstrap && around.isMac) then return false
  if !(← Act.work (Work.ask .unanswered (·.exists? (project.child "Makefile")))) then return false
  Act.print (literal "\nRunning macOS bootstrap (make bootstrap)...")
  let report ← Act.launch around.launcher (bootstrapCommand project)
  if report.code = -1 then
    Act.print (← Act.marked (warning ("Bootstrap failed to start: " ++ report.errors)))
    return false
  if report.code ≠ 0 then
    Act.print (literal "Bootstrap failed. See README.md for manual steps.")
    return false
  return true

/-! ## Making a project -/

/-- The settings with a name for the project, for which the user is asked if need be. -/
def settleName (s : Settings) : Act Settings := do
  let standard := s.defaults.projectName
  match s.projectName with
  | some _ => return s
  | none =>
    let name ← if s.yes then pure standard else Act.ask (askText "Project name" (some standard))
    return { s with projectName := some name }

/-- The identifier of the application, for which the user is asked if need be. -/
def settleIdentifier (around : Surroundings) (s : Settings) : Act String := do
  let standard := s.defaults.identifier around.user s.packageName
  match s.identifier with
  | some identifier => return identifier
  | none => if s.yes then return standard else Act.ask (askText "Identifier" (some standard))

section Hosted

variable [Host]

/-- Renders the template of a project into its directory. -/
def writeProject (around : Surroundings) (s : Settings) (identifier : String) : Work Unit := do
  let templates := s.templatesDirectory.getD around.bundledTemplates
  let written ← renderTemplate { bindings := s.bindings identifier } templates s.template
    s.directory
  Work.note (.wrote written.length s.directory)

/-- Makes a project. The answer is an exit code. -/
def create (around : Surroundings) (settings : Settings) : Act Nat := do
  let s ← settleName settings
  let identifier ← settleIdentifier around s
  if ← mayOverwrite s then
    Act.work (Work.prepareTarget s.directory)
    if s.verbose then
      Act.print (← Act.marked (summary "Template data" (s.bindings identifier).entries))
    Act.work (writeProject around s identifier)
    let bootstrapped ← bootstrap around s s.directory
    nextSteps around s bootstrapped
    return 0
  else
    Act.print (Terminal.error "Directory is not empty, operation cancelled")
    return 1

/-! ## Command lines -/

/-- A step whose problems are reported, if they are to be expected. The answer to such a problem is
the exit code one. -/
def reportProblems (act : Act Nat) : Act Nat := do
  try act
  catch
    | .problem p =>
      if p.isExpected then
        Act.print (Terminal.error p.message)
        return 1
      else
        throw (.problem p)
    | stop => throw stop

/-- Makes the project that some arguments wish for. -/
def createFrom (around : Surroundings) (here : Path) (a : Arguments) : Act Nat := do
  modify fun session =>
    { session with detail := some (if a.verbose then .everything else .warnings) }
  match Settings.ofEnvironment here around.environment a.fields with
  | .ok s => reportProblems (create around s)
  | .faults ms => throw (.misfits ms)

/-- How a run of the program ends that is not stopped. -/
inductive Outcome where
  /-- With its last word. -/
  | finished
  /-- With an exit code. -/
  | exit (code : Nat)
  deriving DecidableEq, Repr

/-- All that a command line asks for, in the directory that the program runs in. -/
def perform (around : Surroundings) (here : Path) (arguments : List String) : Act Outcome := do
  let templates ← Act.work (Work.ask .unanswered (Catalog.list · around.bundledTemplates))
  match parse arguments with
  | .error message =>
    Act.complain (usageError message)
    return .exit 2
  | .ok .help =>
    Act.print (helpText templates)
    return .exit 0
  | .ok .version =>
    Act.print versionText
    return .exit 0
  | .ok (.create a) =>
    match ← createFrom around here a with
    | 0 => return .finished
    | code => return .exit code

end Hosted

end Scaffold.CommandLine
