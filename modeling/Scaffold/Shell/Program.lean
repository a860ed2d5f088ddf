import Scaffold.Shell.Program.Changes
import Scaffold.Shell.Program.Filtering
import Scaffold.Shell.Program.Numbers
import Scaffold.Shell.Program.Printing
import Scaffold.Shell.Program.Searching
import Scaffold.Shell.Program.Sorting

/-!
# Programs

The programs that can be run, and where they lie.

* `Program`: the programs, and `Program.answer` what they do.
* `locateProgram`: the program of a name, or why it cannot be run.
-/

namespace Scaffold.Shell

/-! ## Programs -/

/-- A program. -/
inductive Program where
  | shell
  | yes
  | no
  | echo
  | printf
  | test (bracketed : Bool)
  | sleep
  | pwd
  | printenv
  /-- Runs another program in an environment. -/
  | env
  /-- Runs another program for some time. -/
  | timeout
  /-- Runs another program with the words of the input for arguments. -/
  | xargs
  /-- Tells where programs lie. -/
  | which
  | system
  | seq
  | expr
  | basename
  | dirname
  | cat
  | head
  | tail
  | tac
  | rev
  | nl
  | wc
  | sort
  | uniq
  | cut
  | tr
  | tee
  | grep (flavour : Option String)
  | ls
  | mkdir
  | rmdir
  | touch
  | rm
  | cp
  | mv
  | ln
  | readlink
  | realpath
  /-- A program that is only asked for its version here. -/
  | other
  deriving DecidableEq, Repr

/-- The programs by name. -/
def programs : List (String × Program) :=
  [("sh", .shell), ("dash", .shell), ("bash", .shell), ("true", .yes), ("false", .no),
    ("echo", .echo), ("printf", .printf), ("test", .test false), ("[", .test true),
    ("sleep", .sleep), ("pwd", .pwd), ("printenv", .printenv), ("env", .env),
    ("timeout", .timeout), ("xargs", .xargs), ("which", .which), ("uname", .system), ("seq", .seq),
    ("expr", .expr), ("basename", .basename), ("dirname", .dirname), ("cat", .cat),
    ("head", .head), ("tail", .tail), ("tac", .tac), ("rev", .rev), ("nl", .nl), ("wc", .wc),
    ("sort", .sort), ("uniq", .uniq), ("cut", .cut), ("tr", .tr), ("tee", .tee),
    ("grep", .grep none), ("egrep", .grep "-E"), ("fgrep", .grep "-F"), ("ls", .ls),
    ("mkdir", .mkdir), ("rmdir", .rmdir), ("touch", .touch), ("rm", .rm), ("cp", .cp),
    ("mv", .mv), ("ln", .ln), ("readlink", .readlink), ("realpath", .realpath)] ++
  ["awk", "base64", "chmod", "date", "dd", "df", "diff", "du", "find", "gzip", "id", "md5sum",
    "mktemp", "od", "perl", "sed", "stat", "tar", "whoami", "yes"].map (·, .other)

/-- The argument that asks a program for its version. -/
def versionQuestion : String := "--version"

/-- The arguments that every program but a few answers in the same way. -/
def commonQuestions : List String :=
  [versionQuestion, "--help"]

/-- How the program that tests statements complains about a statement of some words. -/
def testComplaint (name : String) (words : List String) (fault : TestFault) : String :=
  let cause := match fault with
    | .unexpected _ next =>
      match words.length with
      | 2 => "missing argument after ‘" ++ next ++ "’"
      | 3 => "‘" ++ words.getD 1 next ++ "’: binary operator expected"
      | _ => "extra argument ‘" ++ next ++ "’"
    | .illegalNumber argument => "invalid integer ‘" ++ argument ++ "’"
    | .missingArgument operator => "missing argument after ‘" ++ operator ++ "’"
    | .missingBracket =>
      match words.getLast? with
      | some last => "missing argument after ‘" ++ last ++ "’"
      | none => "‘)’ expected"
  name ++ ": " ++ cause

/-- The answer of the program that shows variables. -/
def printVariables (visible : List (String × String)) (names : List String) : Answer :=
  if names = [] then
    .saying (String.join (visible.map fun x => x.1 ++ "=" ++ x.2 ++ "\n"))
  else
    let shown := names.filterMap fun name => (visible.lookup name).map (· ++ "\n")
    { output := bytesOf (String.join shown)
      status := if shown.length = names.length then 0 else 1 }

/-- What a program does that runs no other one. -/
def Program.answer (m : Machine) (arguments : List String) (p : Program) : Answer :=
  let input := m.inputOf 0
  let isQuestion := match arguments with
    | [a] => commonQuestions.contains a
    | _ => false
  match p with
  | .no => { status := 1 }
  | .test false => testAnswer (testComplaint "test" arguments) (.ofProgram m.files) arguments
  | .test true =>
    if isQuestion then {}
    else if arguments.getLast? = some "]" then
      let statement := arguments.dropLast
      testAnswer (testComplaint "[" statement) (.ofProgram m.files) statement
    else .failing "[: missing ‘]’" 2
  | p =>
    if isQuestion then {}
    else
      match p with
      | .echo => echoAnswer true false arguments
      | .printf => printfAnswer arguments
      | .sleep => sleepAnswer arguments
      | .pwd => .saying (m.directory ++ "\n")
      | .printenv => printVariables m.visible arguments
      | .system => .saying "Linux\n"
      | .seq => sequenceAnswer arguments
      | .expr => expressionAnswer arguments
      | .basename => baseNameAnswer arguments
      | .dirname => directoryNameAnswer arguments
      | .cat => catAnswer m.files input arguments
      | .head => headAnswer m.files input arguments
      | .tail => tailAnswer m.files input arguments
      | .tac => reverseLinesAnswer m.files input arguments
      | .rev => reverseAnswer m.files input arguments
      | .nl => numberAnswer m.files input arguments
      | .wc => countAnswer m.files input arguments
      | .sort => sortAnswer m.files input arguments
      | .uniq => uniqueAnswer m.files input arguments
      | .cut => cutAnswer m.files input arguments
      | .tr => translateAnswer input arguments
      | .tee => copyInputAnswer m.files input arguments
      | .grep flavour => searchAnswer m.files input (flavour.toList ++ arguments)
      | .ls => listAnswer m.files arguments
      | .mkdir => makeDirectoriesAnswer m.files arguments
      | .rmdir => removeDirectoriesAnswer m.files arguments
      | .touch => touchAnswer m.files arguments
      | .rm => removeAnswer m.files arguments
      | .cp => copyAnswer m.files arguments
      | .mv => moveAnswer m.files arguments
      | .ln => linkAnswer m.files arguments
      | .readlink => readLinkAnswer m.files arguments
      | .realpath => realPathAnswer m.files arguments
      | _ => {}

/-- The exit code of a program that cannot print. -/
def Program.printFailure : Program → Nat
  | .ls | .grep _ | .printenv => 2
  | .expr => 3
  | _ => 1

/-- A line in which a program names itself in another way than usual. -/
def renameLine (usual name : String) (line : Bytes) : Bytes :=
  let starts : List (String × String) :=
    [(usual ++ ": ", name ++ ": "), ("Try '" ++ usual ++ " ", "Try '" ++ name ++ " ")]
  match starts.find? fun s => (bytesOf s.1).isPrefixOf line with
  | some (old, new) => bytesOf new ++ line.drop old.utf8ByteSize
  | none => line

/-- What a program answers that is run under some name, with which it starts its complaints. -/
def Program.answerAs (m : Machine) (name : String) (arguments : List String) (p : Program) :
    Answer :=
  let a := p.answer m arguments
  let a := match programs.find? fun x => x.2 == p && x.1 != name with
    | some (usual, _) =>
      { a with errors := [0x0A].intercalate ((a.errors.splitOn 0x0A).map (renameLine usual name)) }
    | none => a
  a.checked m (name ++ ": write error: Bad file descriptor") p.printFailure

/-! ## Finding programs -/

/-- The directories in which the programs lie. -/
def programDirectories : List String :=
  ["/usr/local/sbin", "/usr/local/bin", "/usr/sbin", "/usr/bin", "/sbin", "/bin"]

/-- The directories in which there are programs at all. -/
def filledDirectories : List String :=
  ["/usr/bin", "/bin"]

/-- The program of a path. No file that is written here can be run. -/
def programAt (fs : FileSystem) (path : String) : Except Fault Program :=
  let p := Path.ofString path
  if filledDirectories.contains p.parent.toString && (programs.lookup p.name).isSome then
    match programs.lookup p.name with
    | some program => .ok program
    | none => .error .noEntry
  else
    match fs.find p with
    | .ok _ => .error .permissionDenied
    | .error (.system fault _) => .error fault
    | .error _ => .error .noEntry

/-- The path and the program of a name looked for in some directories; `found` is the fault that was
met so far. -/
def searchProgram (fs : FileSystem) (name : String) (found : Fault) :
    List String → Except Fault (String × Program)
  | [] => .error found
  | d :: more =>
    let path := if d = "" then name else d ++ "/" ++ name
    match programAt fs path with
    | .ok program => .ok (path, program)
    | .error .noEntry | .error .notDirectory => searchProgram fs name found more
    | .error fault => searchProgram fs name fault more

/-- The path and the program of a name; a name with a slash is a path. The search path is a list of
directories that is used for other names. -/
def locateProgram (fs : FileSystem) (searchPath : List String) (name : String) :
    Except Fault (String × Program) :=
  if name.toList.contains '/' then (programAt fs name).map (name, ·)
  else if name ∈ ["", ".", ".."] then .error .permissionDenied
  else if FileSystem.nameLimit < name.utf8ByteSize then .error .nameTooLong
  else searchProgram fs name .noEntry searchPath

/-- The directories in which a machine looks for programs. -/
def Machine.searchPath (m : Machine) : List String :=
  match m.get? "PATH" with
  | some path => Text.splitOn ':' path
  | none => programDirectories

end Scaffold.Shell
