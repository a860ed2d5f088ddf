import Scaffold.Shell.Builtin
import Scaffold.Shell.Redirect

/-!
# The shell

The shell runs commands: it expands their words, redirects their streams and runs programs.

* `launch`: a program run on a machine.
* `Command.step`: a command run on a machine, where its parts are run in a given way.
* `runWithin`, `runCommand`: a command run whose parts lie so and so deep in one another.
-/

namespace Scaffold.Shell

/-! ## Programs -/

/-- The time that it takes to start a program, in millionths of a second. -/
def startTime : Nat := 500

/-- How deep programs that run programs may be nested in one another. -/
def launchDepth : Nat := 20

/-- A shell of another name runs something; it sees only exported variables. -/
def runAs (run : Runner) (name : String) (act : Machine → Machine) (m : Machine) : Machine :=
  let inner := { m with
    environment := m.environment.filter (·.exported)
    functions := []
    options := []
    traps := m.traps.filter (·.2 == "")
    name
    arguments := []
    status := 0
    line := 0
    caller := none
    loops := 0
    depth := 0
    hidden := []
    optionPlace := 0
    place := m.directory }
  let inner := { (inner.unset "IFS").set "OPTIND" "1" with status := 0 }
  inSubshell run (fun _ => act inner) m

/-- Runs a text with arguments. -/
def runScript (run : Runner) (text : String) (arguments : List String) (m : Machine) : Machine :=
  runText run false text { m with arguments, line := 1 }

/-- Runs what is written in the input, with arguments. -/
def runInput (run : Runner) (arguments : List String) (m : Machine) : Machine :=
  let text := Text.Utf8.decodeLossy (m.inputOf 0)
  runScript run text arguments ((m.setOption true 's').leaveInput 0 [])

/-- The shell run as a program: its script is an argument, a file, or the input. -/
def startShell (run : Runner) (name : String) (arguments : List String) (m : Machine) : Machine :=
  runAs run name (fun m =>
    let s := applySettings true ⟨m, false, arguments⟩ arguments.length
    let m := s.machine
    if !m.goesOn then m
    else
      match s.script, s.left with
      | true, [] => m.abort "-c requires an argument"
      | true, [text] => runScript run text [] m
      | true, text :: name :: arguments => runScript run text arguments { m with name }
      | false, [] => runInput run [] m
      | false, file :: arguments =>
        if m.hasOption 's' then runInput run (file :: arguments) m
        else
          match m.files.read (.ofString file) with
          | .ok content =>
            let text := Text.Utf8.decodeLossy content.data.toList
            runScript run text arguments { m with name := file }
          | .error (.system .isDirectory _) => m
          | .error _ => m.abort ("cannot open " ++ file ++ ": No such file")) m

/-- How a program that runs others starts them: it names one that cannot be run in some way. -/
abbrev Starter := (String → String) → List String → Machine → Machine

/-- The words of an input for the program that runs others with them: blanks end words, unless there
are quotes around them or a backslash is before them. The quote that is open is given, and the word
that is being put together, last character first. A quote that stays open is an error. -/
def inputWords : Option Char → Option (List Char) → List Char → Except Char (List String)
  | some q, _, [] => .error q
  | none, word, [] => .ok (word.toList.map fun w => String.ofList w.reverse)
  | some q, word, c :: cs =>
    if c == q then inputWords none word cs
    else if c == '\n' then .error q
    else inputWords (some q) (some (c :: word.getD [])) cs
  | none, word, '\\' :: c :: cs => inputWords none (some (c :: word.getD [])) cs
  | none, word, c :: cs =>
    if c == '\'' || c == '"' then inputWords (some c) (some (word.getD [])) cs
    else if c == ' ' || c == '\t' || c == '\n' then do
      let words ← inputWords none none cs
      return (word.toList.map fun w => String.ofList w.reverse) ++ words
    else inputWords none (some (c :: word.getD [])) cs

/-- Groups of at most some members. The first argument bounds how many there are. -/
def groupsOf (size : Nat) : Nat → List String → List (List String)
  | 0, _ | _, [] => []
  | n + 1, words => words.take size :: groupsOf size n (words.drop size)

/-- What the program that runs others with the words of its input runs. -/
def argumentLists (given : Given) (words : List String) : List (List String) :=
  let command := if given.operands = [] then ["echo"] else given.operands
  let size? := ((given.value? 'n').orElse fun _ => given.value? 'L').bind String.toNat?
  match given.value? 'I', size? with
  | some mark, _ => words.map fun word => command.map fun a => Text.replaceAll a mark word
  | none, some n => (groupsOf (max n 1) words.length words).map (command ++ ·)
  | none, none => if words = [] ∧ given.has 'r' then [] else [command ++ words]

/-- Runs commands one after the other until one of them forbids to go on. -/
def runInTurn (start : Starter) (given : Given) : List (List String) → Nat → Machine → Machine
  | [], status, m => m.exit status
  | command :: commands, status, m =>
    let m := if given.has 't' then m.print 2 (textLines [" ".intercalate command]) else m
    let after := start (fun name => "xargs: " ++ name) command m
    if after.status = 0 then runInTurn start given commands status after
    else if after.status = 126 ∨ after.status = 127 then after
    else if after.status = 255 then
      after.fail ("xargs: " ++ command.headD "" ++ ": exited with status 255; aborting") 124
    else runInTurn start given commands 123 after

/-- The program that runs others with the words of its input; `start` runs one. -/
def runWithInput (start : Starter) (arguments : List String) (m : Machine) : Machine :=
  let t : OptionTable := {
    program := "xargs", plain := ['r', 't', '0', 'x'], valued := ['n', 'I', 'd', 'P', 'L'],
    names := [("no-run-if-empty", 'r'), ("max-args", 'n'), ("null", '0'), ("delimiter", 'd'),
      ("verbose", 't')], mixed := false }
  match readOptions t arguments with
  | .error a => m.settle a
  | .ok given =>
    let bs := m.inputOf 0
    let text := Text.Utf8.decodeLossy bs
    let pieces (separator : UInt8) : List String :=
      (bs.splitOn separator |>.reverse |>.dropWhile (· = []) |>.reverse).map Text.Utf8.decodeLossy
    let words : Except Char (List String) :=
      match given.has '0', given.value? 'd', given.value? 'I' with
      | true, _, _ => .ok (pieces 0)
      | _, some d, _ => .ok (pieces (((unescape ⟨false, true, true, false⟩ d.toList).1).headD 0x0A))
      | _, _, some _ => .ok ((linesOf bs).map Text.Utf8.decodeLossy)
      | _, _, none => inputWords none none text.toList
    let m := m.leaveInput 0 []
    match words with
    | .ok words => runInTurn start given (argumentLists given words) 0 m
    | .error c =>
      let kind := if c == '"' then "double" else "single"
      m.fail ("xargs: unmatched " ++ kind ++ " quote; by default quotes are special to xargs " ++
        "unless you use the -0 option") 1

/-- The program that runs another one in an environment; `start` runs one. -/
def runInEnvironment (start : Starter) (arguments : List String) (m : Machine) : Machine :=
  let t : OptionTable := {
    program := "env", plain := ['i', '0'], valued := ['u', 'C'], status := 125
    names := [("ignore-environment", 'i'), ("unset", 'u'), ("chdir", 'C')], mixed := false }
  match readOptions t arguments with
  | .error a => m.settle a
  | .ok given =>
    let clears := given.has 'i' || given.operands.head? = some "-"
    let operands := if given.operands.head? = some "-" then given.operands.tail else given.operands
    let removed := (given.options.filter (·.1 == 'u')).map Prod.snd
    let kept := m.environment.filter fun v => !clears && !removed.contains v.name
    let isPair (a : String) : Bool := (splitAssignment a).2.isSome
    let inner := (operands.takeWhile isPair).foldl (fun m a =>
      let (name, value) := splitAssignment a
      (m.set name (value.getD "")).exportVariable name) { m with environment := kept }
    let directory := given.value? 'C'
    match operands.dropWhile isPair, directory.map fun d => (d, m.files.find (.ofString d)) with
    | [], none => m.settle (printVariables inner.visible [])
    | [], some _ => m.settle (misuse "env" "must specify command with --chdir (-C)" 125)
    | _, some (d, .error failure) =>
      m.fail ("env: cannot change directory to ‘" ++ d ++ "’: " ++ reasonOf failure) 125
    | command, target =>
      let inner := match target with
        | some (_, .ok (l, _)) =>
          { inner with files := { inner.files with workingDirectory := l } }
        | _ => inner
      let after := start (fun name => "env: ‘" ++ name ++ "’") command inner
      { after with
        environment := m.environment
        files := { after.files with workingDirectory := m.files.workingDirectory } }

/-- The program that runs another one for some time; `start` runs one. -/
def runForTime (start : Starter) (arguments : List String) (m : Machine) : Machine :=
  let t : OptionTable := {
    program := "timeout", plain := ['v', 'p', 'f'], valued := ['s', 'k'], status := 125
    names := [("signal", 's'), ("kill-after", 'k'), ("preserve-status", 'p'),
      ("foreground", 'f')], mixed := false }
  match readOptions t arguments with
  | .error a => m.settle a
  | .ok given =>
    match given.operands with
    | [] | [_] => m.fail "Try 'timeout --help' for more information." 125
    | time :: command =>
      match readTime? time, signalNumber? ((given.value? 's').getD "TERM") with
      | none, _ => m.settle (misuse "timeout" ("invalid time interval ‘" ++ time ++ "’") 125)
      | _, none =>
        m.settle (misuse "timeout" ((given.value? 's').getD "" ++ ": invalid signal") 125)
      | some limit, some signal =>
        let after := start (fun name => "timeout: failed to run command ‘" ++ name ++ "’") command m
        if limit ≠ 0 ∧ m.elapsed + limit < after.elapsed then
          let after := { after with elapsed := m.elapsed + limit }
          if signal = killSignal then after.finish (.killed signal)
          else after.exit (if given.has 'p' then 128 + signal else 124)
        else after

/-- The answer of the program that tells where programs lie. -/
def whichAnswer (m : Machine) (names : List String) : Answer :=
  let shown := names.filterMap fun name => match locateProgram m.files m.searchPath name with
    | .ok (path, _) => some path
    | .error _ => none
  { output := textLines shown
    status := if names ≠ [] ∧ shown.length = names.length then 0 else 1 }

/-- A program started. -/
def startProgram (run : Runner) (start : Starter) (p : Program) (name : String)
    (arguments : List String) (m : Machine) : Machine :=
  let m := { m with elapsed := m.elapsed + startTime }
  match p with
  | .shell => startShell run name arguments m
  | .env => runInEnvironment start arguments m
  | .timeout => runForTime start arguments m
  | .xargs => runWithInput start arguments m
  | .which => m.settle (whichAnswer m arguments)
  | p => m.settle (p.answerAs m name arguments)

/-- A program run by another one, which complains if there is none. The first argument bounds how
deep programs that run programs are nested. -/
def launch (run : Runner) : Nat → Starter
  | 0, _, _, m => m.exit 126
  | _, _, [], m => m
  | n + 1, naming, name :: arguments, m =>
    match locateProgram m.files m.searchPath name with
    | .ok (_, p) => startProgram run (launch run n) p name arguments m
    | .error fault =>
      m.fail (naming name ++ ": " ++ fault.describe) (if fault = .noEntry then 127 else 126)

/-- A program run by the shell, which complains if there is none. -/
def runProgram (run : Runner) (name : String) (arguments : List String) (m : Machine) : Machine :=
  match locateProgram m.files m.searchPath name with
  | .ok (_, p) =>
    let visible := { m with environment := m.environment.filter (·.exported) }
    let after := startProgram run (launch run launchDepth) p name arguments visible
    { after with environment := m.environment }.wait
  | .error .permissionDenied =>
    m.complain (name ++ ": Permission denied") (if name.toList.contains '/' then 126 else 127)
  | .error _ => m.complain (name ++ ": not found") 127

/-! ## Commands that run others -/

/-- Functions may be called so deep inside of one another. -/
def functionDepth : Nat := 1000

/-- Variables as they were before a function. -/
def restoreVariables (m : Machine) (frame : List (String × Option Variable)) : Machine :=
  frame.foldl (fun m x =>
    match x.2 with
    | some v => m.putVariable v
    | none => m.unset x.1) m

/-- A function called with arguments. -/
def callFunction (run : Runner) (tested : Bool) (body : Command) (arguments : List String)
    (m : Machine) : Machine :=
  if functionDepth ≤ m.depth then
    m.abort ("Maximum function recursion depth (" ++ toString functionDepth ++ ") reached")
  else
    let inner := { m with arguments, loops := 0, depth := m.depth + 1, hidden := [] :: m.hidden }
    let after := run tested body inner
    let restored := restoreVariables after (after.hidden.headD [])
    { restored with
      arguments := m.arguments
      loops := m.loops
      depth := m.depth
      hidden := m.hidden
      ending := if after.ending = some .returned then none else after.ending }

/-- A script read from a file and run. -/
def runFile (run : Runner) (arguments : List String) (m : Machine) : Machine :=
  match arguments with
  | [] => m.abort "filename argument required"
  | file :: _ =>
    match m.files.read (.ofString file) with
    | .error _ =>
      if file.toList.contains '/' then m.abort ("cannot open " ++ file ++ ": No such file")
      else m.abort (file ++ ": not found")
    | .ok content =>
      let after := runText run false (Text.Utf8.decodeLossy content.data.toList)
        { m with caller := none }
      { after with
        line := m.line
        ending := if after.ending = some .returned then none else after.ending }

/-- A program in the place of the shell. -/
def replaceShell (run : Runner) (arguments : List String) (m : Machine) : Machine :=
  match dropDashes arguments with
  | [] => m.exit 0
  | name :: arguments =>
    { runProgram run name arguments m with ending := some .exited, traps := [] }

/-- The commands of the shell that run others. -/
def runningCommand? (run : Runner) (tested : Bool) (name : String) :
    Option (List String → Machine → Machine) :=
  match name with
  | "eval" => some fun arguments m =>
    let after := runText run tested (" ".intercalate arguments) (m.exit 0)
    { after with line := m.line }
  | "." => some (runFile run)
  | "exec" => some (replaceShell run)
  | _ => none

/-- A command of the shell, which is named in complaints. -/
def runBuiltin (run : Runner) (tested : Bool) (name : String) (arguments : List String)
    (m : Machine) : Option Machine :=
  let act? := (runningCommand? run tested name).orElse fun _ => builtin? (separatorsOf m) name
  act?.map fun act =>
    let inner := { m with caller := some name }
    let after := match illegalOption? name arguments with
      | none => act arguments inner
      | some c =>
        let complaint := "Illegal option -" ++ String.singleton c
        if specialCommands.contains name then inner.abort complaint else inner.complain complaint 2
    { after with caller := m.caller }

/-- A command run without regard to functions. -/
def runPlainly (run : Runner) (tested : Bool) (arguments : List String) (m : Machine) : Machine :=
  match arguments with
  | "-v" :: names => showCommand false names m
  | "-V" :: names => showCommand true names m
  | "-p" :: name :: arguments | name :: arguments =>
    (runBuiltin run tested name arguments m).getD (runProgram run name arguments m)
  | [] => m.exit 0

/-- A function, a command of the shell or a program run. -/
def runNamed (run : Runner) (tested : Bool) (name : String) (arguments : List String)
    (m : Machine) : Machine :=
  let ordinary (m : Machine) : Machine :=
    if name = "command" then runPlainly run tested arguments m
    else (runBuiltin run tested name arguments m).getD (runProgram run name arguments m)
  if specialCommands.contains name then ordinary m
  else
    match m.functions.lookup name with
    | some body => callFunction run tested body arguments m
    | none => ordinary m

/-! ## Simple commands -/

/-- Variables given values, with the values as they are traced. -/
def assignAll (run : Runner) (exported : Bool) :
    List (String × Word) → Machine → List (String × String) × Machine
  | [], m => ([], m)
  | (name, w) :: more, m =>
    let (value, m) := expandWhole run m w
    if m.goesOn then
      let m := m.assign name value
      let m := if exported then m.exportVariable name else m
      if m.goesOn then
        let (traced, m) := assignAll run exported more m
        ((name, value) :: traced, m)
      else ([], m)
    else ([], m)

/-- What is run is shown, if that is asked for. -/
def trace (sink : Sink) (assigned : List (String × String)) (texts : List String) (m : Machine) :
    Machine :=
  if m.hasOption 'x' then
    let words := assigned.map (fun x => x.1 ++ "=" ++ x.2) ++ texts
    let mark := (m.get? "PS4").getD "+ "
    m.printTo sink (bytesOf (mark ++ " ".intercalate words ++ "\n"))
  else m

/-- What was caught is answered; the exit code stays. -/
def answerSignals (run : Runner) (m : Machine) : Machine :=
  match m.caught with
  | [] => m
  | names =>
    let m := { m with caught := [] }
    names.foldl (fun m name =>
      match m.traps.lookup name with
      | some action =>
        if m.goesOn then
          let after := runText run false action m
          if after.goesOn then { after with status := m.status } else after
        else m
      | none => m) m

/-- Failure is the end, if that is asked for and nothing looks at it. -/
def checkFailure (tested : Bool) (m : Machine) : Machine :=
  if m.goesOn && m.status ≠ 0 && !tested && m.hasOption 'e' then m.finish .exited else m

/-- A command without words: its redirections are made and its variables set. -/
def runAssignments (run : Runner) (assignments : List (String × Word))
    (redirections : List (Redirection Word)) (m : Machine) : Machine :=
  let (made, inner) := redirectAll run redirections m
  let m := { inner with channels := m.channels }
  if made then
    let (assigned, m) := assignAll run false assignments m
    let m := if assigned = [] then m else trace (m.sinkOf 2) assigned [] m
    if m.goesOn then m.exit m.outputStatus else m
  else m

/-- A command with words run behind assignments, which only last if the command is special. -/
def runWords (run : Runner) (tested : Bool) (assignments : List (String × Word))
    (redirections : List (Redirection Word)) (name : String) (arguments : List String)
    (m : Machine) : Machine :=
  let special := specialCommands.contains name
  let (made, inner) := redirectAll run redirections m
  let after :=
    if made then
      let (assigned, inner) := assignAll run (!special) assignments inner
      let inner := trace (m.sinkOf 2) assigned (name :: arguments) inner
      if inner.goesOn then runNamed run tested name arguments inner else inner
    else if special && inner.goesOn then inner.finish .exited
    else inner
  let after :=
    if name = "exec" ∧ arguments = [] then after else { after with channels := m.channels }
  if assignments = [] ∨ special then after
  else
    restoreVariables after (assignments.map fun a => (a.1, m.find? a.1))

/-- A simple command. -/
def runSimple (run : Runner) (tested : Bool) (line : Nat) (assignments : List (String × Word))
    (words : List Word) (redirections : List (Redirection Word)) (m : Machine) : Machine :=
  let (texts, m) := expandWords run { m with line, outputStatus := 0 } words
  if m.goesOn then
    let after := match texts with
      | [] => runAssignments run assignments redirections m
      | name :: arguments => runWords run tested assignments redirections name arguments m
    checkFailure tested (answerSignals run after)
  else m

/-! ## Loops -/

/-- A loop without an end is given up after so many rounds. -/
def loopLimit : Nat := 20000

/-- How a loop goes on after a part of it: on, to its next round, or not at all. -/
inductive Onward where
  | onward
  | nextRound
  | stop
  deriving DecidableEq, Repr

/-- What the end of a part of a loop means for the loop. -/
def settleLoop (m : Machine) : Onward × Machine :=
  match m.ending with
  | none => (.onward, m)
  | some (.left 1 true) => (.nextRound, { m with ending := none })
  | some (.left (n + 2) again) => (.stop, { m with ending := some (.left (n + 1) again) })
  | some (.left _ _) => (.stop, { m with ending := none })
  | some _ => (.stop, m)

/-- A loop with a test, of which a round has left an exit code. The last argument bounds the number
of rounds. -/
def runLoop (test body : Machine → Machine) (whileFailing : Bool) (status : Nat) :
    Nat → Machine → Machine
  | 0, m => m.finish .endless
  | n + 1, m =>
    match settleLoop (test m) with
    | (.stop, m) => m
    | (.nextRound, m) => runLoop test body whileFailing m.status n m
    | (.onward, m) =>
      if (m.status ≠ 0) = whileFailing then
        match settleLoop (body m) with
        | (.stop, m) => m
        | (_, m) => runLoop test body whileFailing m.status n m
      else m.exit status

/-- A loop over texts, of which a round has left an exit code. -/
def runEach (body : Machine → Machine) (name : String) : List String → Machine → Machine
  | [], m => m
  | text :: texts, m =>
    let m := m.assign name text
    if m.goesOn then
      match settleLoop (body m) with
      | (.stop, m) => m
      | (_, m) => runEach body name texts m
    else m

/-- The effect of a loop on a machine that counts loops. -/
def insideLoop (act : Machine → Machine) (m : Machine) : Machine :=
  let after := act { m with loops := m.loops + 1 }
  { after with loops := m.loops }

/-! ## Selections -/

/-- One of some words is a pattern for a text. -/
def matchesAny (run : Runner) (text : String) (m : Machine) : List Word → Bool × Machine
  | [] => (false, m)
  | w :: ws =>
    let (pattern, m) := expandMarked run m w
    if (Pattern.ofMarked pattern).accepts text.toList then (true, m)
    else if m.goesOn then matchesAny run text m ws
    else (false, m)

/-- The first of some cases that has a pattern for a text. -/
def runCases (run : Runner) (tested : Bool) (text : String) :
    List (List Word × Command) → Machine → Machine
  | [], m => m.exit 0
  | (patterns, body) :: cases, m =>
    match matchesAny run text m patterns with
    | (true, m) =>
      match body with
      | .skip => m.exit 0
      | body => if m.goesOn then run tested body m else m
    | (false, m) => if m.goesOn then runCases run tested text cases m else m

/-! ## Commands -/

/-- What the second of two commands does with the output of the first, each in a shell of its
own. -/
def runPipe (run : Runner) (tested : Bool) (first second : Command) (m : Machine) : Machine :=
  let (bs, after) := capture run (run tested first) m
  let m := { after with status := m.status }
  let (i, m) := m.addInput bs
  let after := inSubshell run (fun m => run tested second (m.lead 0 (some (.input i)))) m
  { after with inputs := after.inputs.take i }

/-- A command run in the background: nobody waits for its exit code. -/
def runBackground (run : Runner) (body : Command) (m : Machine) : Machine :=
  let inner (m : Machine) : Machine := run false body (readingNothing m)
  let after := inSubshell run inner m
  { after with
    status := 0
    backgroundStatus := some after.status
    inputs := after.inputs.take m.inputs.length }
where
  readingNothing (m : Machine) : Machine :=
    let (i, m) := m.addInput []
    m.lead 0 (some (.input i))

/-- A command run on a machine, where its parts are run in a given way. The flag says that its
failure is looked at. -/
def Command.step (run : Runner) (tested : Bool) (c : Command) (m : Machine) : Machine :=
  match c with
  | .skip => m
  | .simple line assignments words redirections =>
    runSimple run tested line assignments words redirections m
  | .sequence first second => run tested second (run tested first m)
  | .background body => runBackground run body m
  | .both first second =>
    let m := run true first m
    if m.goesOn && m.status = 0 then run tested second m else m
  | .either first second =>
    let m := run true first m
    if m.goesOn && m.status ≠ 0 then run tested second m else m
  | .pipe first second => checkFailure tested (runPipe run tested first second m)
  | .negate body =>
    let m := run true body m
    if m.goesOn then m.exit (if m.status = 0 then 1 else 0) else m
  | .redirected line body redirections =>
    underRedirections run redirections (run tested body) { m with line }
  | .subshell line body redirections =>
    let inner := inSubshell run (run tested body)
    checkFailure tested (underRedirections run redirections inner { m with line })
  | .choose test yes no =>
    let m := run true test m
    if !m.goesOn then m
    else if m.status = 0 then run tested yes m
    else if no matches .skip then m.exit 0
    else run tested no m
  | .loop whileFailing test body =>
    insideLoop (runLoop (run true test) (run tested body) whileFailing 0 loopLimit) m
  | .each line name words body =>
    let (texts, m) := match words with
      | none => (m.arguments, m)
      | some words => expandWords run { m with line } words
    if m.goesOn then insideLoop (runEach (run tested body) name texts) (m.exit 0) else m
  | .select line subject cases =>
    let (text, m) := expandWhole run { m with line } subject
    if m.goesOn then runCases run tested text cases m else m
  | .define name body =>
    let others := m.functions.filter (·.1 != name)
    { m.exit 0 with functions := (name, body) :: others }

/-- Commands may lie so deep in one another. -/
def commandDepth : Nat := 12000

/-- A command run whose parts lie so and so deep in one another. An option forbids to run any. -/
def runWithin : Nat → Runner
  | 0, _, _, m => m.finish .endless
  | n + 1, tested, c, m =>
    if m.goesOn && !m.hasOption 'n' then c.step (runWithin n) tested m else m

/-- How commands are run. -/
def runCommand : Runner :=
  runWithin commandDepth

end Scaffold.Shell
