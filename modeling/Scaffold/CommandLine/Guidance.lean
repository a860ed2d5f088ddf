import Scaffold.CommandLine.Session
import Scaffold.Settings.Basic
import Scaffold.Terminal

/-!
# Guidance

What the user is told after a project was made: how to build and run it, and which tools are
missing.

* `reportMissing`: the report of missing tools.
* `nextSteps`: the whole of it.
-/

namespace Scaffold.CommandLine

open Terminal

variable [Terminal]

/-! ## Missing tools -/

/-- How missing tools can be had. -/
def missingTools : List (String × String) :=
  [("Swift", "Install Xcode Command Line Tools: `xcode-select --install`")]

/-- The report of missing tools. -/
def missingReport : String :=
  literal "\nYour system is missing dependencies:" ++
    String.join (missingTools.map fun (name, instruction) =>
      literal ("- " ++ name ++ ": " ++ instruction))

/-- Reports missing tools. The answer says whether there are any. -/
def reportMissing (around : Surroundings) : Act Bool := do
  let report ← Act.launch around.launcher (Subprocess.versionCommand "swift")
  unless report.succeeded do Act.print missingReport
  return !report.succeeded

/-! ## Next steps -/

/-- The command that enters the directory of a project; a name with a blank is quoted. -/
def enterCommand (name : String) : String :=
  if name.toList.contains ' ' then "cd \"" ++ name ++ "\"" else "cd " ++ name

/-- What to do about a project. -/
def stepsText (s : Settings) (bootstrapped : Bool) : String :=
  let enter := if s.isCurrentDirectory then "" else literal ("  " ++ enterCommand s.displayName)
  let bootstrap := if bootstrapped then "" else literal "  make bootstrap"
  literal "" ++ literal "Template created! To get started run:" ++ enter ++ bootstrap ++
    literal "  swift build" ++ literal ("  swift run " ++ s.moduleName)

/-- What is worth knowing where no tool is missing. -/
def hintsText (bootstrapped : Bool) : String :=
  let reminder :=
    if bootstrapped then ""
    else
      literal "Important: on macOS run `make bootstrap` before the first build or it will fail."
  literal "\nTip: set VELOX_DEV_URL to load a dev server instead of the built-in UI." ++ reminder

/-- Tells what is missing, or what is worth knowing if nothing is. -/
def closeGuidance (around : Surroundings) (bootstrapped : Bool) : Act Unit := do
  unless ← reportMissing around do Act.print (hintsText bootstrapped)

/-- Tells what to do about a project, and whether a tool for it is missing. -/
def nextSteps (around : Surroundings) (s : Settings) (bootstrapped : Bool) : Act Unit := do
  Act.print (stepsText s bootstrapped)
  closeGuidance around bootstrapped

end Scaffold.CommandLine
