import Scaffold.Shell.Program.Options

/-!
# Programs that tell about paths

* `locateName`, `entryOfName`: what a name given to a program leads to.
* `listAnswer`: the program that lists directories.
* `readLinkAnswer`, `realPathAnswer`: where paths lead.
* `baseNameAnswer`, `directoryNameAnswer`: the parts of a path.
-/

namespace Scaffold.Shell

/-! ## Complaints -/

/-- A name as complaints show it. -/
def quoteName (name : String) : String :=
  if name.toList.contains '\'' then "\"" ++ name ++ "\"" else "'" ++ name ++ "'"

/-! ## Names -/

/-- What a name leads to. An empty name leads to nothing, and a slash at the end to a directory
only. -/
def locateName (fs : FileSystem) (follow : Bool) (name : String) : Except Failure Place := do
  let p := Path.ofString name
  if name = "" then .error (.system .noEntry p)
  else
    match ← fs.locate (follow || name.endsWith "/") p with
    | .present l e =>
      if name.endsWith "/" ∧ e ≠ .directory then .error (.system .notDirectory p)
      else return .present l e
    | place => return place

/-- A name leads to a directory. -/
def leadsToDirectory (fs : FileSystem) (name : String) : Bool :=
  match locateName fs true name with
  | .ok (.present _ .directory) => true
  | _ => false

/-- The entry that a name leads to, or why there is none. -/
def entryOfName (fs : FileSystem) (follow : Bool) (name : String) :
    Except String (Location × Entry) :=
  match locateName fs follow name with
  | .ok (.present l e) => .ok (l, e)
  | .ok (.absent _ _) => .error Fault.noEntry.describe
  | .error failure => .error (reasonOf failure)

/-! ## Listing -/

/-- The options of the program that lists directories. -/
def listOptions : OptionTable where
  program := "ls"
  plain := ['a', 'A', 'd', '1', 'r', 'p', 'F', 'l', 'R', 'C', 'x', 't', 'S', 'U', 'q']
  names := [("all", 'a'), ("almost-all", 'A'), ("directory", 'd'), ("reverse", 'r'),
    ("classify", 'F'), ("recursive", 'R')]
  status := 2

/-- A name with the sign of what it names behind it, if that is asked for. -/
def markName (given : Given) (fs : FileSystem) (path name : String) : String :=
  match fs.locate false (.ofString path) with
  | .ok (.present _ .directory) => if given.has 'p' || given.has 'F' then name ++ "/" else name
  | .ok (.present _ (.link _)) => if given.has 'F' then name ++ "@" else name
  | _ => name

/-- The names that are listed of a directory. -/
def listedNames (given : Given) (fs : FileSystem) (directory : String) : List String :=
  let names := sortNames (((fs.list (.ofString directory)).toOption).getD [])
  let shown :=
    if given.has 'a' then [".", ".."] ++ names
    else if given.has 'A' then names
    else names.filter (!·.startsWith ".")
  if given.has 'r' then shown.reverse else shown

/-- A directory with its names in it, and those below it if that is asked for. The first argument
bounds how deep they lie. -/
def listBelow (given : Given) (fs : FileSystem) (headed : Bool) : Nat → String → List Bytes
  | 0, _ => []
  | n + 1, directory =>
    let names := listedNames given fs directory
    let inside (name : String) : String :=
      if directory.endsWith "/" then directory ++ name else directory ++ "/" ++ name
    let lines := textLines (names.map fun name => markName given fs (inside name) name)
    let own := if headed then bytesOf (directory ++ ":\n") ++ lines else lines
    let isInner (name : String) : Bool :=
      name != "." && name != ".." &&
        (match fs.locate false (.ofString (inside name)) with
          | .ok (.present _ .directory) => true
          | _ => false)
    let deeper := if given.has 'R' then (names.filter isInner).map inside else []
    own :: deeper.flatMap (listBelow given fs true n)

/-- The answer of the program that lists directories. -/
def listAnswer (fs : FileSystem) (arguments : List String) : Answer :=
  answerTo listOptions arguments fun given =>
    let operands := if given.operands = [] then ["."] else given.operands.mergeSort (· ≤ ·)
    let isListed (operand : String) : Bool := !given.has 'd' && leadsToDirectory fs operand
    let missing := operands.filterMap fun operand =>
      match entryOfName fs false operand with
      | .ok _ => none
      | .error reason => some (operand, reason)
    let there := operands.filter fun operand => !missing.any (·.1 == operand)
    let plain := there.filter (!isListed ·)
    let headed := 1 < operands.length || given.has 'R'
    let sections := (there.filter isListed).flatMap
      (listBelow given fs headed (fs.entries.length + 1))
    let plainSection := textLines (plain.map fun name => markName given fs name name)
    { output := [0x0A].intercalate (if plain = [] then sections else plainSection :: sections)
      errors := textLines
        (missing.map fun x => "ls: cannot access " ++ quoteName x.1 ++ ": " ++ x.2)
      status := if missing = [] then 0 else 2 }

/-! ## Where paths lead -/

/-- The path from the root to where a name leads, or would lead if `mayLack` is set. -/
def fullPath (fs : FileSystem) (mayLack : Bool) (name : String) : Except Failure String := do
  match ← locateName fs true name with
  | .present l _ => return "/" ++ "/".intercalate l
  | .absent d n =>
    if mayLack then return "/" ++ "/".intercalate (d ++ [n])
    else .error (.system .noEntry (.ofString name))

/-- The answer of the program that shows where links lead. -/
def readLinkAnswer (fs : FileSystem) (arguments : List String) : Answer :=
  let t : OptionTable := {
    program := "readlink", plain := ['f', 'n', 'e', 'm', 'v', 'q', 's']
    names := [("canonicalize", 'f'), ("canonicalize-existing", 'e'), ("no-newline", 'n')] }
  answerTo t arguments fun given =>
    let show? (name : String) : Option String :=
      if given.hasAny ['f', 'e', 'm'] then (fullPath fs (!given.has 'e') name).toOption
      else
        match fs.locate false (.ofString name) with
        | .ok (.present _ (.link target)) => some target
        | _ => none
    let shown := given.operands.filterMap show?
    if given.operands = [] then missingOperand "readlink"
    else
      { output := if given.has 'n' then bytesOf (String.join shown) else textLines shown
        status := if shown.length = given.operands.length then 0 else 1 }

/-- The answer of the program that shows paths without links. -/
def realPathAnswer (fs : FileSystem) (arguments : List String) : Answer :=
  let t : OptionTable := {
    program := "realpath", plain := ['e', 'm', 's', 'q']
    names := [("canonicalize-existing", 'e')] }
  answerTo t arguments fun given =>
    let one (a : Answer) (name : String) : Answer :=
      match fullPath fs (!given.has 'e') name with
      | .ok path => { a with output := a.output ++ textLines [path] }
      | .error failure =>
        let shown := if name = "" then quoteName name else name
        { a with
          errors := a.errors ++ textLines ["realpath: " ++ shown ++ ": " ++ reasonOf failure]
          status := 1 }
    if given.operands = [] then missingOperand "realpath" else given.operands.foldl one {}

/-! ## Parts of paths -/

/-- A text without slashes at its end, of which one is left if there is nothing else. -/
def dropSlashes (s : String) : String :=
  let cs := (s.toList.reverse.dropWhile (· == '/')).reverse
  if cs = [] ∧ s ≠ "" then "/" else String.ofList cs

/-- The last name of a path. -/
def baseName (s : String) : String :=
  let s := dropSlashes s
  if s = "/" then "/" else String.ofList (s.toList.reverse.takeWhile (· != '/')).reverse

/-- A path without its last name. -/
def directoryName (s : String) : String :=
  let s := dropSlashes s
  if !s.toList.contains '/' then "."
  else dropSlashes (String.ofList (s.toList.reverse.dropWhile (· != '/')).reverse)

/-- A name without an ending, unless nothing else is left. -/
def dropEnding (name ending : String) : String :=
  match Text.dropSuffix? name ending with
  | some "" | none => name
  | some rest => rest

/-- The answer of the program that shows last names of paths. -/
def baseNameAnswer (arguments : List String) : Answer :=
  let t : OptionTable := {
    program := "basename", plain := ['a', 'z'], valued := ['s'], mixed := false,
    names := [("multiple", 'a'), ("suffix", 's'), ("zero", 'z')] }
  answerTo t arguments fun given =>
    let finish := if given.has 'z' then "\x00" else "\n"
    let several := given.has 'a' || given.has 's'
    match given.operands, several with
    | [], _ => missingOperand "basename"
    | operands, true =>
      let names := operands.map fun o => dropEnding (baseName o) ((given.value? 's').getD "")
      .saying (String.join (names.map (· ++ finish)))
    | [path], false => .saying (baseName path ++ finish)
    | [path, ending], false => .saying (dropEnding (baseName path) ending ++ finish)
    | _ :: _ :: extra :: _, false => extraOperand "basename" extra

/-- The answer of the program that shows paths without their last names. -/
def directoryNameAnswer (arguments : List String) : Answer :=
  let t : OptionTable := { program := "dirname", plain := ['z'], names := [("zero", 'z')] }
  answerTo t arguments fun given =>
    let finish := if given.has 'z' then "\x00" else "\n"
    if given.operands = [] then missingOperand "dirname"
    else .saying (String.join (given.operands.map fun o => directoryName o ++ finish))

end Scaffold.Shell
