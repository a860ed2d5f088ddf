import Scaffold.Shell.Program
import Scaffold.Shell.Script
import Scaffold.Shell.Signal
import Scaffold.Shell.Test
import Scaffold.Text.Utf8

/-!
# Commands of the shell itself

These commands change the machine on their own and run nothing else.

* `builtin?`: the command of a name.
-/

namespace Scaffold.Shell

/-- The effect of an answer of a command of the shell. -/
def Machine.respond (m : Machine) (a : Answer) : Machine :=
  m.settle (a.checked m (m.complaintStart ++ m.caller.getD "" ++ ": I/O error") 1)

/-! ## Numbers -/

/-- The largest number that commands of the shell take. -/
def largestInteger : Nat := 2147483647

/-- A number among the arguments, or what stands for it if there is none; what is no number is an
error. -/
def withNumber (m : Machine) (arguments : List String) (usual : Nat)
    (act : Nat → Machine → Machine) : Machine :=
  match arguments with
  | [] => act usual m
  | a :: _ =>
    match a.toNat? with
    | some n => if n ≤ largestInteger then act n m else m.abort ("Illegal number: " ++ a)
    | none => m.abort ("Illegal number: " ++ a)

/-- Leaves the shell. -/
def leaveShell (arguments : List String) (m : Machine) : Machine :=
  withNumber m arguments m.status fun n m => (m.exit (n % 256)).finish .exited

/-- Leaves a function. -/
def leaveFunction (arguments : List String) (m : Machine) : Machine :=
  withNumber m arguments m.status fun n m => (m.exit (n % 256)).finish .returned

/-- Leaves loops. -/
def leaveLoops (again : Bool) (arguments : List String) (m : Machine) : Machine :=
  withNumber m arguments 1 fun n m =>
    if n = 0 then m.abort "Illegal number: 0"
    else if m.loops = 0 then m.exit 0
    else (m.exit 0).finish (.left (min n m.loops) again)

/-! ## Directories -/

/-- The names on the way from the root to a directory, as the shell says them. -/
def placeAfter (place : String) (target : String) : String :=
  let start := if target.startsWith "/" then [] else (Path.ofString place).names
  let names := (Path.ofString target).names.foldl (fun names name =>
    if name = ".." then names.dropLast else names ++ [name]) start
  "/" ++ "/".intercalate names

/-- Goes to another directory. -/
def goTo (arguments : List String) (m : Machine) : Machine :=
  let physical := arguments.contains "-P"
  let operands := arguments.filter fun a => a != "-P" && a != "-L" && a != "--"
  let (target, shown) := match operands with
    | [] => ((m.get "HOME"), false)
    | "-" :: _ => (m.get "OLDPWD", true)
    | target :: _ => (target, false)
  if target = "" then m.exit 0
  else
    let place := placeAfter m.place target
    match m.files.find (.ofString (if physical then target else place)) with
    | .ok (l, .directory) =>
      let old := m.place
      let m := { m with
        files := { m.files with workingDirectory := l }
        place := if physical then "/" ++ "/".intercalate l else place }
      let m := (m.set "OLDPWD" old).set "PWD" m.place
      m.respond (.saying (if shown then m.place ++ "\n" else ""))
    | _ => m.complain ("can't cd to " ++ target) 2

/-- Says where the shell is. -/
def showPlace (arguments : List String) (m : Machine) : Machine :=
  m.respond (.saying ((if arguments.contains "-P" then m.directory else m.place) ++ "\n"))

/-! ## Variables -/

/-- A text in single quotes, as the shell reads it. -/
def singleQuoted (s : String) : String :=
  "'" ++ Text.replaceAll s "'" "'\"'\"'" ++ "'"

/-- Lines that say what some variables are. -/
def describeVariables (start : String) (vs : List Variable) : String :=
  let sorted := vs.mergeSort fun a b => decide (a.name ≤ b.name)
  String.join (sorted.map fun v =>
    start ++ v.name ++ (v.value.elim "" fun value => "=" ++ singleQuoted value) ++ "\n")

/-- The name and the value of an argument that assigns one. -/
def splitAssignment (argument : String) : String × Option String :=
  let name := argument.toList.takeWhile (· ≠ '=')
  match argument.toList.drop name.length with
  | '=' :: value => (String.ofList name, some (String.ofList value))
  | _ => (argument, none)

/-- A variable given a value, unless it cannot be changed. -/
def Machine.assign (m : Machine) (name value : String) : Machine :=
  if m.isFixed name then m.abort (name ++ ": is read only") else m.set name value

/-- Variables marked, with values if some are given. -/
def markAll (mark : Machine → String → Machine) (m : Machine) : List String → Machine
  | [] => m.exit 0
  | a :: more =>
    let (name, value) := splitAssignment a
    if !isName name.toList then m.abort (name ++ ": bad variable name")
    else
      let m := value.elim m (m.assign name)
      if m.goesOn then markAll mark (mark m name) more else m

/-- Makes variables visible to other programs. -/
def exportAll (arguments : List String) (m : Machine) : Machine :=
  match arguments with
  | [] | ["-p"] =>
    m.respond (.saying (describeVariables "export " (m.environment.filter (·.exported))))
  | arguments => markAll Machine.exportVariable m (dropDashes arguments)

/-- Makes variables keep their values. -/
def fixAll (arguments : List String) (m : Machine) : Machine :=
  match arguments with
  | [] | ["-p"] =>
    m.respond (.saying (describeVariables "readonly " (m.environment.filter (·.fixed))))
  | arguments => markAll Machine.fixVariable m (dropDashes arguments)

/-- Takes variables or functions away. -/
def unsetAll (arguments : List String) (m : Machine) : Machine :=
  match arguments with
  | "-f" :: names =>
    { m.exit 0 with functions := m.functions.filter fun f => !names.contains f.1 }
  | arguments =>
    let names := arguments.filter fun a => a != "-v" && a != "--"
    match names.find? m.isFixed with
    | some name => m.abort (name ++ ": is read only")
    | none => names.foldl Machine.unset (m.exit 0)

/-- Makes variables that last as long as a function. -/
def hideAll (arguments : List String) (m : Machine) : Machine :=
  match m.hidden with
  | [] => m.abort "not in a function"
  | frame :: frames =>
    let names := arguments.map fun a => (splitAssignment a).1
    let old := names.filterMap fun name =>
      if frame.any (·.1 == name) then none else some (name, m.find? name)
    let m := { m.exit 0 with hidden := (old ++ frame) :: frames }
    arguments.foldl (fun m a =>
      match splitAssignment a with
      | (name, some value) => m.assign name value
      | (_, none) => m) m

/-- Drops the first arguments of the script. -/
def shift (arguments : List String) (m : Machine) : Machine :=
  withNumber m arguments 1 fun n m =>
    if n ≤ m.arguments.length then { m.exit 0 with arguments := m.arguments.drop n }
    else m.abort "can't shift that many"

/-! ## Options -/

/-- The options of the shell: their letters and their names. -/
def shellOptions : List (Char × String) :=
  [('e', "errexit"), ('f', "noglob"), ('I', "ignoreeof"), ('i', "interactive"), ('m', "monitor"), 
    ('n', "noexec"), ('s', "stdin"), ('x', "xtrace"), ('v', "verbose"), ('V', "vi"), ('E', "emacs"),
    ('C', "noclobber"), ('a', "allexport"), ('b', "notify"), ('u', "nounset"), ('p', "privileged")]

/-- An option set or not. -/
def Machine.setOption (m : Machine) (on : Bool) (letter : Char) : Machine :=
  let letters := if on then letter :: m.options else m.options.filter (· != letter)
  { m with options := (shellOptions.map Prod.fst).reverse.filter letters.contains }

/-- The options as lines: names with what they are set to, or commands that set them so. -/
def describeOptions (asNames : Bool) (m : Machine) : String :=
  let blanks (name : String) : String := String.ofList (List.replicate (16 - name.length) ' ')
  let line (x : Char × String) : String :=
    if asNames then x.2 ++ blanks x.2 ++ if m.hasOption x.1 then "on\n" else "off\n"
    else (if m.hasOption x.1 then "set -o " else "set +o ") ++ x.2 ++ "\n"
  (if asNames then "Current option settings\n" else "") ++ String.join (shellOptions.map line)

/-- An option set or not by its name; without a name, all options are shown. -/
def setByName (on : Bool) (name : Option String) (m : Machine) : Machine :=
  match name with
  | none => m.respond (.saying (describeOptions on m))
  | some name =>
    match shellOptions.find? (·.2 == name) with
    | some (letter, _) => m.setOption on letter
    | none => m.abort ("Illegal option -o " ++ name)

/-- The letter that asks the shell to run a text when it starts. -/
def scriptLetter : Char := 'c'

/-- What settings among arguments have come to: the machine, whether the shell is asked to run a
text, and the arguments that are left. -/
structure Settings where
  machine : Machine
  script : Bool := false
  left : List String

/-- Options set or not by their letters, one of which takes a name from the arguments. -/
def setLetters (starting on : Bool) (s : Settings) : List Char → Settings
  | [] => s
  | 'o' :: cs =>
    let m := setByName on s.left.head? s.machine
    if m.goesOn then setLetters starting on { s with machine := m, left := s.left.tail } cs
    else { s with machine := m }
  | c :: cs =>
    if starting && c == scriptLetter then setLetters starting on { s with script := true } cs
    else if (shellOptions.lookup c).isSome then
      setLetters starting on { s with machine := s.machine.setOption on c } cs
    else { s with machine := s.machine.abort ("Illegal option -" ++ String.singleton c) }

/-- Options set by the first of some arguments. `starting` says that the shell is started with them.
The last argument bounds how many there are. -/
def applySettings (starting : Bool) (s : Settings) : Nat → Settings
  | 0 => s
  | n + 1 =>
    if s.machine.goesOn then
      match s.left with
      | [] => s
      | a :: more =>
        match a.toList with
        | ['-'] =>
          let m := s.machine
          { s with
            machine := if starting then m else (m.setOption false 'x').setOption false 'v'
            left := more }
        | ['-', '-'] =>
          let m := s.machine
          { s with
            machine := if starting || more != [] then m else { m with arguments := [] }
            left := more }
        | '-' :: cs =>
          applySettings starting (setLetters starting true { s with left := more } cs) n
        | '+' :: cs =>
          applySettings starting (setLetters starting false { s with left := more } cs) n
        | _ => s
    else s

/-- The command that sets options and arguments, or shows all variables. -/
def setCommand (arguments : List String) (m : Machine) : Machine :=
  if arguments = [] then
    m.respond (.saying (describeVariables "" (m.environment.filter (·.value.isSome))))
  else
    let s := applySettings false ⟨m.exit 0, false, arguments⟩ arguments.length
    if s.left = [] then s.machine else { s.machine with arguments := s.left }

/-- The letter that an option of the script has in a list of letters, and whether it has a value. -/
def optionKind? (letters : String) (c : Char) : Option Bool :=
  match (letters.toList.dropWhile (· != c)) with
  | _ :: ':' :: _ => if c = ':' then none else some true
  | _ :: _ => if c = ':' then none else some false
  | [] => none

/-- No more options of the script are found. -/
def endOptions (m : Machine) (name : String) (index : Nat) : Machine :=
  { (m.set name "?").set "OPTIND" (toString index) with optionPlace := 0, status := 1 }

/-- The next option among arguments of the script. -/
def nextOption (letters name : String) (arguments : List String) (m : Machine) : Machine :=
  let index := ((m.get "OPTIND").toNat?).getD 1
  let silent := letters.startsWith ":"
  let (place, index) := if m.optionPlace = 0 then (1, index + 1) else (m.optionPlace, index)
  let cs := ((arguments[index - 2]?).getD "").toList
  match cs, cs[place]? with
  | ['-', '-'], _ => if m.optionPlace = 0 then endOptions m name index else m
  | '-' :: _, some c =>
    let rest := cs.drop (place + 1)
    let found (m : Machine) (shown : String) (index : Nat) (place : Nat) : Machine :=
      { (m.set name shown).set "OPTIND" (toString index) with optionPlace := place, status := 0 }
    let further := if rest = [] then 0 else place + 1
    match optionKind? letters c, rest, arguments[index - 1]? with
    | none, _, _ =>
      let m := if silent then m.set "OPTARG" (String.singleton c)
        else (m.print 2 (bytesOf ("Illegal option -" ++ String.singleton c ++ "\n"))).unset "OPTARG"
      found m "?" index further
    | some false, _, _ => found (m.unset "OPTARG") (String.singleton c) index further
    | some true, _ :: _, _ =>
      found (m.set "OPTARG" (String.ofList rest)) (String.singleton c) index 0
    | some true, [], some value =>
      found (m.set "OPTARG" value) (String.singleton c) (index + 1) 0
    | some true, [], none =>
      if silent then found (m.set "OPTARG" (String.singleton c)) ":" index 0
      else
        let complaint := "No arg for -" ++ String.singleton c ++ " option\n"
        found ((m.print 2 (bytesOf complaint)).unset "OPTARG") "?" index 0
  | _, _ => endOptions m name (index - 1)

/-- The command that looks for options. -/
def optionsCommand (arguments : List String) (m : Machine) : Machine :=
  match arguments with
  | letters :: name :: more => nextOption letters name (if more = [] then m.arguments else more) m
  | _ => m.complain "Usage: getopts optstring var [arg]" 2

/-! ## Input -/

/-- A line that goes on with the next one if a backslash ends it; its characters are marked where a
backslash stands before them. The first argument bounds the number of lines. -/
def takeLogicalLine (raw : Bool) : Nat → Machine → (Marked × Bool) × Machine
  | 0, m => (([], false), m)
  | n + 1, m =>
    let ((line, complete), m) := m.takeLine
    let cs := (Text.Utf8.decodeLossy line).toList
    if raw then ((cs.map (·, false), complete), m)
    else
      let (marked, continues) := markEscapes cs
      if continues && complete then
        let ((more, complete), m) := takeLogicalLine raw n m
        ((marked ++ more, complete), m)
      else ((marked, complete), m)
where
  /-- Characters behind backslashes marked, and whether a backslash is left at the end. -/
  markEscapes : List Char → Marked × Bool
    | [] => ([], false)
    | ['\\'] => ([], true)
    | '\\' :: c :: cs =>
      let (more, continues) := markEscapes cs
      ((c, true) :: more, continues)
    | c :: cs =>
      let (more, continues) := markEscapes cs
      ((c, false) :: more, continues)

/-- A character separates texts that are read. -/
def separates (separators : List Char) (x : Char × Bool) : Bool :=
  !x.2 && separators.contains x.1

/-- A character is a blank that separates texts that are read. -/
def separatesAsBlank (separators : List Char) (x : Char × Bool) : Bool :=
  separates separators x && (x.1 == ' ' || x.1 == '\t' || x.1 == '\n')

/-- Variables given the texts between separators; the last one is given all that is left. -/
def assignFields (separators : List Char) (cs : Marked) (m : Machine) : List String → Machine
  | [] => m
  | [name] =>
    let cs := cs.dropWhile (separatesAsBlank separators)
    m.assign name (markedText (cs.reverse.dropWhile (separatesAsBlank separators)).reverse)
  | name :: names =>
    let cs := cs.dropWhile (separatesAsBlank separators)
    let field := cs.takeWhile (!separates separators ·)
    let rest := (cs.drop field.length).dropWhile (separatesAsBlank separators)
    let rest := match rest with
      | x :: more =>
        if separates separators x && !separatesAsBlank separators x then more else rest
      | [] => []
    assignFields separators rest (m.assign name (markedText field)) names

/-- Reads a line of the input into variables. A question is only asked at a terminal, which there is
none of. -/
def readCommandLine (separators : List Char) (raw : Bool) (arguments : List String) (m : Machine) :
    Machine :=
  match arguments with
  | "-r" :: more => readInto true more
  | "-p" :: _ :: "-r" :: more => readInto true more
  | "-p" :: _ :: more => readInto raw more
  | more => readInto raw more
where
  readInto (raw : Bool) (names : List String) : Machine :=
    if names = [] then m.complain "arg count" 2
    else
      let ((cs, complete), m) := takeLogicalLine raw ((m.inputOf 0).length + 1) m
      let m := assignFields separators cs m names
      if m.goesOn then m.exit (if complete then 0 else 1) else m

/-! ## Signals -/

/-- What is done on a signal changed, for several signals. -/
def trapAll (action : Option String) (m : Machine) : List String → Machine
  | [] => m.exit 0
  | a :: more =>
    match signalNumber? a with
    | none => (m.print 2 (bytesOf ("trap: " ++ a ++ ": bad trap\n"))).exit 1
    | some n =>
      let others := m.traps.filter (·.1 != signalName n)
      let traps := action.elim others fun action => (signalName n, action) :: others
      trapAll action { m with traps } more

/-- The command that says what is done on signals. -/
def trapCommand (arguments : List String) (m : Machine) : Machine :=
  match dropDashes arguments with
  | [] =>
    m.respond (.saying (String.join (signals.filterMap fun x =>
      (m.traps.lookup x.2).map fun action =>
        "trap -- " ++ singleQuoted action ++ " " ++ x.2 ++ "\n")))
  | [signal] => trapAll none m [signal]
  | "-" :: more => trapAll none m more
  | action :: more => trapAll (some action) m more

/-! ## Names of commands -/

/-- The commands of the shell that are not special. -/
def ordinaryCommands : List String :=
  ["[", "alias", "bg", "cd", "command", "echo", "false", "fg", "getopts", "hash", "jobs", "kill",
    "local", "printf", "pwd", "read", "test", "true", "type", "ulimit", "umask", "unalias", "wait"]

/-- What a name stands for when it is run. -/
inductive Meaning where
  | keyword
  | function
  | special
  | builtin
  | program (path : String)
  | nothing
  deriving DecidableEq, Repr

/-- What a name stands for. -/
def meaningOf (m : Machine) (name : String) : Meaning :=
  if reservedWords.contains name then .keyword
  else if specialCommands.contains name then .special
  else if (m.functions.lookup name).isSome then .function
  else if ordinaryCommands.contains name then .builtin
  else
    match locateProgram m.files m.searchPath name with
    | .ok (path, _) => .program path
    | .error _ => .nothing

/-- What is said about the meaning of a name. -/
def describeMeaning (name : String) : Meaning → String
  | .keyword => name ++ " is a shell keyword"
  | .function => name ++ " is a shell function"
  | .special => name ++ " is a special shell builtin"
  | .builtin => name ++ " is a shell builtin"
  | .program path => name ++ " is " ++ path
  | .nothing => name ++ ": not found"

/-- Says what names mean. -/
def describeCommands (arguments : List String) (m : Machine) : Machine :=
  let lines := arguments.map fun name => describeMeaning name (meaningOf m name) ++ "\n"
  let missing := arguments.any fun name => meaningOf m name = .nothing
  m.respond { output := bytesOf (String.join lines), status := if missing then 127 else 0 }

/-- Says what a name would run. -/
def showCommand (verbose : Bool) (arguments : List String) (m : Machine) : Machine :=
  match arguments with
  | [] => m.exit 0
  | name :: _ =>
    match meaningOf m name, verbose with
    | .nothing, true => m.respond { output := bytesOf (name ++ ": not found\n"), status := 127 }
    | .nothing, false => m.exit 127
    | meaning, true => m.respond (.saying (describeMeaning name meaning ++ "\n"))
    | .program path, false => m.respond (.saying (path ++ "\n"))
    | _, false => m.respond (.saying (name ++ "\n"))

/-! ## Commands -/

/-- The letters of the options of commands of the shell, for those that look for options; a colon is
behind those that have a value. -/
def commandLetters : List (String × String) :=
  [("cd", "LP"), ("pwd", "LP"), ("export", "p"), ("readonly", "p"), ("unset", "vf"),
    ("read", "p:r"), ("printf", ""), ("command", "pvV"), ("umask", "S"), ("wait", ""),
    ("trap", ""), (".", ""), ("exec", ""), ("unalias", "a"), ("jobs", "lp"), ("fg", ""),
    ("bg", ""), ("hash", "r")]

/-- The first letter of an option among some arguments that a list of letters does not hold. -/
def illegalLetter? (letters : List Char) : List String → Option Char
  | [] => none
  | a :: more =>
    match a.toList with
    | ['-', '-'] => none
    | '-' :: c :: cs =>
      match (c :: cs).find? fun c => c == ':' || !letters.contains c with
      | some c => some c
      | none =>
        let last := cs.getLastD c
        let hasValue := (letters.dropWhile (· != last)).take 2 = [last, ':']
        if hasValue then illegalLetter? letters more.tail else illegalLetter? letters more
    | _ => none
termination_by arguments => arguments.length
decreasing_by all_goals simp only [List.length_cons, List.length_tail]; omega

/-- The first letter of an option among the arguments of a command that the command does not
know. -/
def illegalOption? (name : String) (arguments : List String) : Option Char :=
  (commandLetters.lookup name).bind fun letters => illegalLetter? letters.toList arguments

/-- A test of the shell. -/
def testCommand (arguments : List String) (m : Machine) : Machine :=
  let complaint (fault : TestFault) : String := m.complaintStart ++ fault.message
  m.respond (testAnswer complaint (.ofShell m.files) arguments)

/-- The command of a name that runs nothing else. -/
def builtin? (separators : List Char) (name : String) :
    Option (List String → Machine → Machine) :=
  match name with
  | ":" | "true" => some fun _ m => m.exit 0
  | "false" => some fun _ m => m.exit 1
  | "exit" => some leaveShell
  | "return" => some leaveFunction
  | "break" => some (leaveLoops false)
  | "continue" => some (leaveLoops true)
  | "cd" => some goTo
  | "pwd" => some showPlace
  | "export" => some exportAll
  | "readonly" => some fixAll
  | "unset" => some unsetAll
  | "local" => some hideAll
  | "shift" => some shift
  | "set" => some setCommand
  | "getopts" => some optionsCommand
  | "read" => some (readCommandLine separators false)
  | "trap" => some trapCommand
  | "kill" => some sendSignals
  | "type" => some describeCommands
  | "echo" => some fun arguments m => m.respond (shellEchoAnswer arguments)
  | "printf" => some fun arguments m => m.respond (shellPrintfAnswer m.complaintStart arguments)
  | "test" => some testCommand
  | "[" => some fun arguments m =>
    if arguments.getLast? = some "]" then testCommand arguments.dropLast m
    else m.complain "missing ]" 2
  | "wait" => some fun arguments m =>
    m.exit (if arguments = [] then 0 else m.backgroundStatus.getD 127)
  | "umask" => some fun arguments m =>
    m.respond (.saying (if arguments = [] then "0022\n" else ""))
  | "ulimit" => some fun _ m => m.respond (.saying "unlimited\n")
  | "times" => some fun _ m => m.respond (.saying "0m0.00s 0m0.00s\n0m0.00s 0m0.00s\n")
  | "hash" => some fun arguments m =>
    match arguments.find? fun name => meaningOf m name = .nothing with
    | some name => m.complain (name ++ ": not found") 1
    | none => m.exit 0
  | "fg" | "bg" => some fun _ m => m.complain "No current job" 2
  | "alias" | "unalias" | "jobs" => some fun _ m => m.exit 0
  | _ => none

end Scaffold.Shell
