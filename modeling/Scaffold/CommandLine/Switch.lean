/-!
# Switches

The switches of the command line: how each is spelled, and whether a value comes with it.

* `Switch.spellings`: the spellings of a switch.
* `spellings`: all spellings, in the order in which the help lists them.
-/

namespace Scaffold.CommandLine

/-- A switch of the command line. -/
inductive Switch where
  | help
  | template
  | identifier
  | yes
  | force
  | veloxPath
  | templatesDirectory
  | verbose
  | version
  deriving DecidableEq, Repr

namespace Switch

/-- All switches, in the order in which the help lists them. -/
def all : List Switch :=
  [.help, .template, .identifier, .yes, .force, .veloxPath, .templatesDirectory, .verbose, .version]

/-- The spellings of a switch. -/
def spellings : Switch → List String
  | .help => ["-h", "--help"]
  | .template => ["--template", "-t"]
  | .identifier => ["--identifier"]
  | .yes => ["--yes", "-y"]
  | .force => ["--force", "-f"]
  | .veloxPath => ["--velox-path"]
  | .templatesDirectory => ["--templates-dir"]
  | .verbose => ["--verbose", "-v"]
  | .version => ["--version"]

/-- What the value of a switch is called in the help, if one comes with it. -/
def valueName? : Switch → Option String
  | .template => some "TEMPLATE"
  | .identifier => some "IDENTIFIER"
  | .veloxPath => some "VELOX_PATH"
  | .templatesDirectory => some "TEMPLATES_DIR"
  | _ => none

/-- A value comes with the switch. -/
def takesValue (s : Switch) : Bool :=
  s.valueName?.isSome

/-- How error messages name a switch. -/
def describe (s : Switch) : String :=
  "/".intercalate s.spellings

end Switch

/-- All spellings with their switches. -/
def spellings : List (String × Switch) :=
  Switch.all.flatMap fun s => s.spellings.map (·, s)

end Scaffold.CommandLine
