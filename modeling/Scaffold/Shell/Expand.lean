import Scaffold.Shell.Arithmetic
import Scaffold.Shell.Machine
import Scaffold.Shell.Pattern
import Scaffold.Shell.Script
import Scaffold.Text.Utf8

/-!
# What words stand for

The shell puts values in the place of parameters and output in the place of scripts, splits what is
not quoted, and puts names of files in the place of patterns.

* `inSubshell`, `capture`: commands run in a shell of their own.
* `expandParts`: the texts that the parts of a word stand for.
* `expandWords`, `expandWhole`, `expandMarked`: words as several texts, as one, and as a pattern.
-/

namespace Scaffold.Shell

/-- How a command is run; the flag says that its failure is looked at and is no reason to end. -/
abbrev Runner := Bool → Command → Machine → Machine

/-! ## Scripts -/

/-- What is left of a script run line by line. The first argument bounds the number of lines. -/
def runSource (run : Runner) (tested : Bool) : Nat → Source → Machine → Machine
  | 0, _, m => m
  | n + 1, s, m =>
    match nextCommand? s with
    | .error (line, e) => { m with line }.abort e.message
    | .ok none => m
    | .ok (some (command, rest)) =>
      let m := run tested command m
      if m.goesOn then runSource run tested n rest m else m

/-- A script run line by line. -/
def runText (run : Runner) (tested : Bool) (script : String) (m : Machine) : Machine :=
  runSource run tested (script.length + 1) { rest := script.toList } m

/-- The effect of the end of a shell: what it was told to do then is done. -/
def endShell (run : Runner) (m : Machine) : Machine :=
  match m.traps.lookup "EXIT", m.ending with
  | none, _ | _, some (.killed _) | _, some .endless => m
  | some action, _ =>
    let traps := m.traps.filter (·.1 != "EXIT")
    let after := runText run false action { m with traps, ending := none }
    if after.ending = some .exited then after
    else { after with status := m.status, ending := after.ending <|> m.ending }

/-- The effect of commands run in a shell of their own: only files, streams and time are changed,
and an exit ends only that shell. -/
def inSubshell (run : Runner) (act : Machine → Machine) (m : Machine) : Machine :=
  let inner := { m with traps := m.traps.filter (·.2 == "") }
  let after := endShell run (act inner)
  { m with
    files := { after.files with workingDirectory := m.files.workingDirectory }
    status := after.status
    inputs := after.inputs
    written := after.written
    elapsed := after.elapsed
    ending := match after.ending with
      | some (.killed signal) => some (.killed signal)
      | some .endless => some .endless
      | _ => m.ending }

/-- What commands print in a shell of their own, and their effect. -/
def capture (run : Runner) (act : Machine → Machine) (m : Machine) : Bytes × Machine :=
  let i := m.written.length
  let inner := { m with written := m.written ++ [[]] }.lead 1 (some (.output (.stream i)))
  let after := inSubshell run act inner
  (after.printed i,
    { after with written := after.written.take i, channels := m.channels })

/-! ## Fields -/

/-- The texts that a word has been found to stand for, and the one that is being put together. -/
structure Fields where
  done : List Marked := []
  current : Option Marked := none
  /-- A blank has just ended a text, and another separator may belong to it. -/
  gap : Bool := false
  deriving DecidableEq, Repr

namespace Fields

/-- The text that is being put together is complete. -/
def close (f : Fields) : Fields :=
  match f.current with
  | some cs => { done := f.done ++ [cs] }
  | none => f

/-- The text goes on with characters that are not split. -/
def add (f : Fields) (cs : Marked) : Fields :=
  { f with current := some (f.current.getD [] ++ cs), gap := false }

/-- A separator that is no blank. -/
def separate (f : Fields) : Fields :=
  if f.current.isSome then { f.close with gap := false }
  else if f.gap then { f with gap := false }
  else { f with done := f.done ++ [[]] }

/-- The text goes on with characters, which separators split. -/
def addSplit (separators : List Char) (f : Fields) (cs : List Char) : Fields :=
  cs.foldl (fun f c =>
    if separators.contains c then
      if c = ' ' ∨ c = '\t' ∨ c = '\n' then
        if f.current.isSome then { f.close with gap := true } else f
      else f.separate
    else f.add [(c, false)]) f

/-- The text goes on with the first of several texts, and the others follow; `addOne` adds one. -/
def addAll (addOne : Fields → String → Fields) (f : Fields) : List String → Fields
  | [] => f
  | [a] => addOne f a
  | a :: more => addAll addOne (addOne f a).close more

end Fields

/-! ## Parameters -/

/-- The name of a parameter in complaints. -/
def Parameter.describe : Parameter → String
  | .variable name => name
  | .argument i => toString i
  | .allArguments joined => if joined then "*" else "@"
  | .argumentCount => "#"
  | .status => "?"
  | .process => "$"
  | .background => "!"
  | .options => "-"

/-- The values of a parameter, if it has any; only that of all arguments may have another number
than one. -/
def Parameter.values? (m : Machine) : Parameter → Option (List String)
  | .variable name => (m.get? name).map ([·])
  | .argument 0 => some [m.name]
  | .argument (i + 1) => m.arguments[i]?.map ([·])
  | .allArguments _ => if m.arguments = [] then none else some m.arguments
  | .argumentCount => some [toString m.arguments.length]
  | .status => some [toString m.status]
  | .process => some [Machine.process]
  | .background => m.backgroundStatus.map fun _ => [Machine.backgroundProcess]
  | .options => some [String.ofList m.options]

/-- A missing value of the parameter is no error, even if that is asked for. -/
def Parameter.mayLack : Parameter → Bool
  | .allArguments _ => true
  | _ => false

/-- The characters that split texts. -/
def separatorsOf (m : Machine) : List Char :=
  match m.get? "IFS" with
  | some s => s.toList
  | none => [' ', '\t', '\n']

/-- What stands between arguments that are joined. -/
def joinerOf (m : Machine) (joined : Bool) : String :=
  if joined then String.ofList ((separatorsOf m).take 1) else " "

/-- How what parts of a word stand for is put together. -/
structure Manner where
  /-- What is not quoted is split. -/
  splits : Bool
  /-- Even text of the word itself is split. -/
  splitsText : Bool := false

/-- A value added to texts. -/
def Manner.addValue (manner : Manner) (separators : List Char) (quoted : Bool) (f : Fields)
    (value : String) : Fields :=
  if quoted then f.add (value.toList.map (·, true))
  else if manner.splits then f.addSplit separators value.toList
  else f.add (value.toList.map (·, false))

/-- The values of a parameter added to texts. -/
def Manner.addValues (manner : Manner) (m : Machine) (p : Parameter) (quoted : Bool)
    (values : List String) (f : Fields) : Fields :=
  let addOne := manner.addValue (separatorsOf m) quoted
  match p with
  | .allArguments joined =>
    if !manner.splits || (quoted && joined) then
      addOne f ((joinerOf m joined).intercalate values)
    else f.addAll addOne values
  | _ => f.addAll addOne values

/-- A value that is missing added to texts: what is quoted is an empty text. -/
def Manner.addNothing (manner : Manner) (p : Parameter) (quoted : Bool) (f : Fields) : Fields :=
  match p with
  | .allArguments false => if manner.splits then f else f.add []
  | _ => if quoted || !manner.splits then f.add [] else f

/-- The value of a parameter added to texts, unless it is missing and that is an error. -/
def addParameter (manner : Manner) (p : Parameter) (quoted : Bool) (f : Fields) (m : Machine) :
    Fields × Machine :=
  match p.values? m with
  | some values => (manner.addValues m p quoted values f, m)
  | none =>
    if m.hasOption 'u' && !p.mayLack then (f, m.abort (p.describe ++ ": parameter not set"))
    else (manner.addNothing p quoted f, m)

/-- The length of the value of a parameter. -/
def lengthOf (p : Parameter) (m : Machine) : Nat :=
  " ".intercalate ((p.values? m).getD []) |>.utf8ByteSize

/-! ## Parts -/

/-- The text that bytes printed by a script stand for: line ends at its end are left out. -/
def outputText (bs : Bytes) : String :=
  let cs := (Text.Utf8.decodeLossy (bs.filter (· ≠ 0))).toList
  String.ofList (cs.reverse.dropWhile (· = '\n')).reverse

/-- Variables given values as an expression says. -/
def assignNumbers (m : Machine) : List (String × Int) → Machine
  | [] => m
  | (name, i) :: more =>
    if m.isFixed name then m.abort (name ++ ": is read only")
    else assignNumbers (m.set name (toString i)) more

/-- The value of the expression that a text writes, and its effect. -/
def evaluateOn (m : Machine) (text : String) : String × Machine :=
  match evaluateText m.get? text with
  | .ok (i, assigned) => (toString i, assignNumbers m assigned.reverse)
  | .error fault => ("", m.abort (fault.message text))

/-- The single text that fields make up. -/
def Fields.joined (f : Fields) : Marked :=
  [(' ', false)].intercalate f.close.done

/-- The manner in which parts make up a single text. -/
def Manner.whole : Manner := { splits := false }

mutual

/-- The texts that a part of a word goes on with. -/
def expandPart (run : Runner) (manner : Manner) (f : Fields) (m : Machine) :
    Part → Fields × Machine
  | .text cs quoted =>
    if manner.splitsText && !quoted then (f.addSplit (separatorsOf m) cs, m)
    else (f.add (cs.map (·, quoted)), m)
  | .parameter p use quoted => expandUse run manner p quoted f m use
  | .output script quoted =>
    let (bs, after) := capture run (run false script) m
    (manner.addValue (separatorsOf m) quoted f (outputText bs),
      { after with outputStatus := after.status, status := m.status })
  | .number expression quoted =>
    let (text, m) := expandParts run .whole {} m expression
    let (value, m) := evaluateOn m (markedText text.joined)
    (manner.addValue (separatorsOf m) quoted f value, m)

/-- The texts that the use of a parameter goes on with. -/
def expandUse (run : Runner) (manner : Manner) (p : Parameter) (quoted : Bool) (f : Fields)
    (m : Machine) : Use → Fields × Machine
  | .value => addParameter manner p quoted f m
  | .length =>
    if (p.values? m).isNone && m.hasOption 'u' && !p.mayLack then
      (f, m.abort (p.describe ++ ": parameter not set"))
    else (manner.addValue [] quoted f (toString (lengthOf p m)), m)
  | .otherwise rule emptyIsNone word =>
    let present := (p.values? m).any fun values => !emptyIsNone || values.any (· ≠ "")
    let inner : Manner := { manner with splitsText := manner.splits && !quoted }
    let start := if quoted then f.add [] else f
    match rule, present with
    | .alternative, true => expandParts run inner start m word
    | .alternative, false => (manner.addNothing p quoted f, m)
    | _, true => addParameter manner p quoted f m
    | .fallback, false => expandParts run inner start m word
    | .assign, false =>
      let (text, m) := expandParts run .whole {} m word
      match p with
      | .variable name =>
        if m.isFixed name then (f, m.abort (name ++ ": is read only"))
        else addParameter manner p quoted f (m.set name (markedText text.joined))
      | p => (f, m.abort (p.describe ++ ": bad variable name"))
    | .demand, false =>
      let (text, m) := expandParts run .whole {} m word
      let reason :=
        if text.joined ≠ [] then markedText text.joined
        else if emptyIsNone then "parameter not set or null"
        else "parameter not set"
      (f, m.abort (p.describe ++ ": " ++ reason))
  | .without start longest pattern =>
    let (text, m) := expandParts run .whole {} m pattern
    let trim := if start then trimStart else trimEnd
    let trim := trim longest (.ofMarked text.joined)
    match p.values? m with
    | some values =>
      let values := values.map fun value => String.ofList (trim value.toList)
      (manner.addValues m p quoted values f, m)
    | none => addParameter manner p quoted f m
  | .bad => (f, m.abort "Bad substitution")

/-- The texts that parts of a word go on with. -/
def expandParts (run : Runner) (manner : Manner) (f : Fields) (m : Machine) :
    List Part → Fields × Machine
  | [] => (f, m)
  | p :: ps =>
    let (f, m) := expandPart run manner f m p
    if m.goesOn then expandParts run manner f m ps else (f, m)

end

/-! ## Names of files -/

/-- A text is a pattern for names of files. -/
def isPattern (cs : Marked) : Bool :=
  cs.any fun x => !x.2 && (x.1 == '*' || x.1 == '?' || x.1 == '[')

/-- The names in a directory that a pattern stands for. A dot at their start has to be written. -/
def matchingNames (fs : FileSystem) (directory : String) (piece : Marked) : List String :=
  let names := sortNames (((fs.list (.ofString directory)).toOption).getD [])
  let dotted := (piece.head?.map Prod.fst) = some '.'
  let candidates := if dotted then "." :: ".." :: names else names.filter (!·.startsWith ".")
  candidates.filter fun name => (Pattern.ofMarked piece).accepts name.toList

/-- The names of files that pieces of a pattern stand for, behind the start of a path. -/
def matchPieces (fs : FileSystem) (start : String) : List Marked → List String
  | [] => []
  | [piece] =>
    if isPattern piece then (matchingNames fs start piece).map (start ++ ·)
    else
      let path := start ++ markedText piece
      match fs.locate (piece = []) (.ofString path) with
      | .ok (.present _ e) => if piece = [] ∧ e ≠ .directory then [] else [path]
      | _ => []
  | piece :: more =>
    if isPattern piece then
      (matchingNames fs start piece).flatMap fun name => matchPieces fs (start ++ name ++ "/") more
    else matchPieces fs (start ++ markedText piece ++ "/") more

/-- The pieces of a text between slashes. -/
def splitSlashes (cs : Marked) : List Marked :=
  cs.splitOnP fun x => x.1 == '/'

/-- The names of files that a text stands for if it is a pattern for some, and else the text. -/
def expandNames (m : Machine) (cs : Marked) : List String :=
  if m.hasOption 'f' || !isPattern cs then [markedText cs]
  else
    match matchPieces m.files "" (splitSlashes cs) with
    | [] => [markedText cs]
    | names => names

/-! ## Words -/

/-- A word that starts with the sign of the home directory, with that directory in its place. -/
def expandHome (m : Machine) : Word → Word
  | .text ('~' :: cs) false :: parts =>
    match cs, m.get? "HOME" with
    | [], some home => .text home.toList true :: parts
    | '/' :: cs, some home => .text home.toList true :: .text ('/' :: cs) false :: parts
    | _, _ => .text ('~' :: cs) false :: parts
  | w => w

/-- The texts that words stand for. -/
def expandWords (run : Runner) (m : Machine) : List Word → List String × Machine
  | [] => ([], m)
  | w :: ws =>
    let (fields, m) := expandParts run { splits := true } {} m (expandHome m w)
    if m.goesOn then
      let names := fields.close.done.flatMap (expandNames m)
      let (rest, m) := expandWords run m ws
      (names ++ rest, m)
    else ([], m)

/-- The single text that a word stands for where it is not split, with its characters marked. -/
def expandMarked (run : Runner) (m : Machine) (w : Word) : Marked × Machine :=
  let (fields, m) := expandParts run .whole {} m (expandHome m w)
  (fields.joined, m)

/-- The single text that a word stands for where it is not split. -/
def expandWhole (run : Runner) (m : Machine) (w : Word) : String × Machine :=
  let (cs, m) := expandMarked run m w
  (markedText cs, m)

end Scaffold.Shell
