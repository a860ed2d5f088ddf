import Scaffold.CommandLine.Switch
import Scaffold.Text.Replace

/-!
# Usage and help

* `usage`: the one line that shows how the program is called.
* `helpText`: the help, which lists the bundled templates.
* `usageError`: the report of a command line that cannot be read.
* `versionText`: the answer to a question for the version.
-/

namespace Scaffold.CommandLine

/-- The name of the program. -/
def programName : String := "create-velox-app"

/-- The version of the program. -/
def programVersion : String := "0.1.0"

/-! ## Usage -/

/-- A switch as the usage shows it: by its first spelling. -/
def Switch.usage (s : Switch) : String :=
  let spelling := s.spellings.headD ""
  match s.valueName? with
  | some v => "[" ++ spelling ++ " " ++ v ++ "]"
  | none => "[" ++ spelling ++ "]"

/-- What the name of the project is called in usage and help. -/
def nameArgument : String := "project_name"

/-- How the program is called. -/
def usage : String :=
  "usage: " ++ " ".intercalate
    (programName :: Switch.all.map Switch.usage ++ ["[" ++ nameArgument ++ "]"]) ++ "\n"

/-- The report of a command line that cannot be read. -/
def usageError (message : String) : String :=
  usage ++ programName ++ ": error: " ++ message ++ "\n"

/-- The answer to a question for the version. -/
def versionText : String :=
  programName ++ " " ++ programVersion ++ "\n"

/-! ## Help -/

/-- The column at which explanations start. -/
def helpColumn : Nat := 24

/-- A line of the help: what is explained, and the explanation, on a line of its own if there is
no room. -/
def helpEntry (subject explanation : String) : String :=
  let room := helpColumn - 4
  if subject.length ≤ room then
    "  " ++ subject ++ String.ofList (List.replicate (room - subject.length) ' ') ++ "  " ++
      explanation ++ "\n"
  else
    "  " ++ subject ++ "\n" ++ String.ofList (List.replicate helpColumn ' ') ++ explanation ++ "\n"

/-- A switch as the help shows it: by all its spellings, each with the value. -/
def Switch.subject (s : Switch) : String :=
  ", ".intercalate <| s.spellings.map fun spelling =>
    match s.valueName? with
    | some v => spelling ++ " " ++ v
    | none => spelling

/-- The names of the templates as the help lists them. -/
def available (templates : List String) : String :=
  match templates with
  | [] => "none"
  | ts => ", ".intercalate ts

/-- What a switch is for. -/
def Switch.explanation (templates : List String) : Switch → String
  | .help => "show this help message and exit"
  | .template => "UI template to use. Available: " ++ available templates
  | .identifier => "Unique identifier for your application"
  | .yes => "Skip prompts and use defaults where applicable"
  | .force => "Force create the directory even if it is not empty"
  | .veloxPath => "Use a local Velox checkout (path) instead of the GitHub dependency"
  | .templatesDirectory =>
    "Directory containing template-<name> folders (default: bundled templates)"
  | .verbose => "Print template data and per-file progress"
  | .version => "show program's version number and exit"

/-- The help. -/
def helpText (templates : List String) : String :=
  usage ++ "\nRapidly scaffold out a new Velox app project.\n\n" ++
    "positional arguments:\n" ++
    helpEntry nameArgument
      "Project name, used for the directory and Swift package ('.' for the current directory)" ++
    "\noptions:\n" ++
    String.join (Switch.all.map fun s => helpEntry s.subject (s.explanation templates)) ++
    "\nExamples:\n" ++
    "  create-velox-app my-app\n" ++
    "  create-velox-app my-app -t vanilla -y\n" ++
    "  create-velox-app . --force\n"

end Scaffold.CommandLine
