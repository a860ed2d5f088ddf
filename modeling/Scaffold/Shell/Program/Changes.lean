import Scaffold.Shell.Program.Paths

/-!
# Programs that change files

* `Changing`: what programs do to files one after the other, and what they say about it.
* `makeDirectoriesAnswer`, `touchAnswer`: directories and files made.
* `removeAnswer`, `removeDirectoriesAnswer`: files and directories removed.
* `copyAnswer`, `moveAnswer`, `linkAnswer`: files put elsewhere.
-/

namespace Scaffold.Shell

/-! ## Changes -/

/-- What programs do to files, one after the other: the files, what is said, and the complaints. -/
structure Changing where
  files : FileSystem
  said : List String := []
  complaints : List String := []

namespace Changing

/-- Says something, if that is asked for. -/
def say (c : Changing) (given : Given) (text : String) : Changing :=
  if given.has 'v' then { c with said := c.said ++ [text] } else c

/-- One more complaint. -/
def complain (c : Changing) (complaint : String) : Changing :=
  { c with complaints := c.complaints ++ [complaint] }

/-- A change, of which something is said, or a complaint about it. -/
def attempt (c : Changing) (given : Given) (text : String) (complaint : String → String)
    (change : Except Failure FileSystem) : Changing :=
  match change with
  | .ok files => { c with files }.say given text
  | .error failure => c.complain (complaint (reasonOf failure))

/-- The answer of a program that has changed files. -/
def answer (c : Changing) : Answer where
  output := textLines c.said
  errors := textLines c.complaints
  status := if c.complaints = [] then 0 else 1
  files := some c.files

end Changing

/-! ## Making -/

/-- The options of the program that makes directories. -/
def makeDirectoriesOptions : OptionTable where
  program := "mkdir"
  plain := ['p', 'v']
  valued := ['m']
  names := [("parents", 'p'), ("verbose", 'v'), ("mode", 'm')]

/-- The paths on the way along a path, from the start of it. -/
def pathsTo (p : Path) : List Path :=
  (List.range p.names.length).map fun i => ⟨p.anchor, p.names.take (i + 1)⟩

/-- Makes a directory and those above it that are missing. -/
def makeWithAncestors (given : Given) (c : Changing) (p : Path) : Changing :=
  let blocked (q : Path) : Bool :=
    match c.files.find q with
    | .ok (_, .directory) | .error _ => false
    | .ok _ => true
  let missing := (pathsTo p).filter fun q => !(c.files.exists? q).toOption.getD true
  let complaint (subject : Path) (reason : String) : String :=
    "mkdir: cannot create directory ‘" ++ subject.toString ++ "’: " ++ reason
  match (pathsTo p).dropLast.find? blocked with
  | some q => c.complain (complaint q Fault.notDirectory.describe)
  | none =>
    let (result, files) := c.files.makeDirectories true p
    let c := { c with files }
    match result with
    | .ok () => missing.foldl (fun c q =>
        c.say given ("mkdir: created directory " ++ quoteName q.toString)) c
    | .error failure => c.complain (complaint p (reasonOf failure))

/-- The answer of the program that makes directories. -/
def makeDirectoriesAnswer (fs : FileSystem) (arguments : List String) : Answer :=
  answerTo makeDirectoriesOptions arguments fun given =>
    let make (c : Changing) (name : String) : Changing :=
      let complaint (reason : String) : String :=
        "mkdir: cannot create directory ‘" ++ name ++ "’: " ++ reason
      if name = "" then c.complain (complaint Fault.noEntry.describe)
      else if given.has 'p' then makeWithAncestors given c (.ofString name)
      else
        c.attempt given ("mkdir: created directory " ++ quoteName name) complaint
          (c.files.makeDirectory (.ofString name))
    if given.operands = [] then missingOperand "mkdir"
    else (given.operands.foldl make { files := fs }).answer

/-- The answer of the program that makes files that are not there. -/
def touchAnswer (fs : FileSystem) (arguments : List String) : Answer :=
  let t : OptionTable := {
    program := "touch", plain := ['a', 'c', 'm'], valued := ['d', 't', 'r'],
    names := [("no-create", 'c'), ("date", 'd'), ("reference", 'r')] }
  answerTo t arguments fun given =>
    let touch (c : Changing) (name : String) : Changing :=
      let complaint (reason : String) : String :=
        "touch: cannot touch " ++ quoteName name ++ ": " ++ reason
      match locateName c.files true name with
      | .ok (.present _ _) => c
      | .ok (.absent _ _) =>
        if given.has 'c' then c
        else if name.endsWith "/" then c.complain (complaint Fault.noEntry.describe)
        else c.attempt {} "" complaint (c.files.write (.ofString name) ⟨#[]⟩)
      | .error failure => c.complain (complaint (reasonOf failure))
    if given.operands = [] then misuse "touch" "missing file operand"
    else (given.operands.foldl touch { files := fs }).answer

/-! ## Removing -/

/-- The wording of the fault that a directory still holds something. -/
def notEmpty : String := "Directory not empty"

/-- What is said of a directory with all below it, or of a file, that is removed. -/
def removalNotes (fs : FileSystem) (name : String) (l : Location) : List String :=
  let note (x : String × Entry) : String :=
    let path := if x.1 = "" then name else name ++ "/" ++ x.1
    (if x.2 = .directory then "removed directory " else "removed ") ++ quoteName path
  let inside := (fs.below l).reverse.map note
  inside ++ (fs.get? l).toList.map fun e => note ("", e)

/-- Removes what a name leads to. -/
def removeName (given : Given) (c : Changing) (name : String) : Changing :=
  let deep := given.has 'r' || given.has 'R'
  let complaint (reason : String) : Changing :=
    c.complain ("rm: cannot remove " ++ quoteName name ++ ": " ++ reason)
  match locateName c.files false name with
  | .ok (.absent _ _) => if given.has 'f' then c else complaint Fault.noEntry.describe
  | .ok (.present l e) =>
    let last := (Text.splitOn '/' name).filter (· ≠ "") |>.getLast?
    if e = .directory ∧ !deep ∧ !given.has 'd' then complaint Fault.isDirectory.describe
    else if e = .directory ∧ (last = some "." ∨ last = some "..") then
      c.complain ("rm: refusing to remove '.' or '..' directory: skipping " ++ quoteName name)
    else if l = [] then
      (c.complain ("rm: it is dangerous to operate recursively on " ++ quoteName "/")).complain
        "rm: use --no-preserve-root to override this failsafe"
    else if e = .directory ∧ !deep ∧ c.files.listing l ≠ [] then complaint notEmpty
    else if e = .directory ∧ (c.files.locate false (.ofString name)).toOption ≠
        some (.present l e) then
      complaint Fault.notDirectory.describe
    else
      (removalNotes c.files name l).foldl (fun c note => c.say given note)
        { c with files := c.files.remove l }
  | .error failure =>
    let absent := match failure with
      | .system .noEntry _ | .system .notDirectory _ => true
      | _ => false
    if absent && given.has 'f' then c else complaint (reasonOf failure)

/-- The answer of the program that removes files. -/
def removeAnswer (fs : FileSystem) (arguments : List String) : Answer :=
  let t : OptionTable := {
    program := "rm", plain := ['r', 'R', 'f', 'i', 'v', 'd'],
    names := [("recursive", 'r'), ("force", 'f'), ("dir", 'd'), ("verbose", 'v')] }
  answerTo t arguments fun given =>
    if given.operands = [] ∧ !given.has 'f' then missingOperand "rm"
    else (given.operands.foldl (removeName given) { files := fs }).answer

/-- Removes an empty directory, and those above it on its path as long as they are empty, if that is
asked for. -/
def removeEmpty (given : Given) (c : Changing) (p : Path) : Nat → String → Changing
  | 0, _ => c
  | n + 1, what =>
    let c := c.say given ("rmdir: removing directory, " ++ quoteName p.toString)
    let complaint (reason : String) : Changing :=
      c.complain ("rmdir: failed to remove " ++ what ++ quoteName p.toString ++ ": " ++ reason)
    match entryOfName c.files false p.toString with
    | .ok (l, .directory) =>
      if c.files.listing l ≠ [] then if given.has 'i' then c else complaint notEmpty
      else
        let c := { c with files := c.files.remove l }
        if given.has 'p' ∧ p.parent.names ≠ [] then
          removeEmpty given c p.parent n "directory "
        else c
    | .ok _ => complaint Fault.notDirectory.describe
    | .error reason => complaint reason

/-- The answer of the program that removes empty directories. -/
def removeDirectoriesAnswer (fs : FileSystem) (arguments : List String) : Answer :=
  let t : OptionTable := {
    program := "rmdir", plain := ['p', 'v'],
    names := [("parents", 'p'), ("verbose", 'v'), ("ignore-fail-on-non-empty", 'i')] }
  answerTo t arguments fun given =>
    let remove (c : Changing) (name : String) : Changing :=
      let p := Path.ofString name
      if name = "" then
        c.complain ("rmdir: failed to remove " ++ quoteName name ++ ": " ++ Fault.noEntry.describe)
      else removeEmpty given c p (p.names.length + 1) ""
    if given.operands = [] then missingOperand "rmdir"
    else (given.operands.foldl remove { files := fs }).answer

/-! ## Copying and moving -/

/-- Where something named by a path is put: into a directory, or in place of what is there. -/
def destinationOf (fs : FileSystem) (source target : String) : String :=
  if leadsToDirectory fs target then
    let name := (Path.ofString source).name
    if target.endsWith "/" then target ++ name else target ++ "/" ++ name
  else target

/-- Everything at and below a location put at another one. -/
def copyBelow (fs : FileSystem) (source target : Location) : FileSystem :=
  let inside := fs.entries.filter fun x => source.isPrefixOf x.1
  inside.foldl (fun fs x => fs.put (target ++ x.1.drop source.length) x.2) fs

/-- The location of what a name leads to, or where it would lie. A slash at the end is for
directories only. -/
def placeFor (fs : FileSystem) (follow forDirectory : Bool) (name : String) :
    Except Failure Location := do
  match ← locateName fs follow name with
  | .present l _ => return l
  | .absent d n =>
    if name.endsWith "/" ∧ !forDirectory then .error (.system .notDirectory (.ofString name))
    else return d ++ [n]

/-- The sources and the target of a program that puts files elsewhere, or what is missing. -/
def sourcesAndTarget (program : String) (fs : FileSystem) (given : Given) :
    Except Answer (List String × String) :=
  let notDirectory (target : String) : Except Answer (List String × String) :=
    .error (.failing (program ++ ": target " ++ quoteName target ++
      ": " ++ (if (entryOfName fs true target).toOption.isSome then Fault.notDirectory.describe
        else Fault.noEntry.describe)) 1)
  match given.value? 't', given.operands.reverse with
  | _, [] => .error (misuse program "missing file operand")
  | some target, _ =>
    if leadsToDirectory fs target then .ok (given.operands, target) else notDirectory target
  | none, [one] =>
    .error (misuse program ("missing destination file operand after " ++ quoteName one))
  | none, target :: sources =>
    if 1 < sources.length ∧ !leadsToDirectory fs target then notDirectory target
    else .ok (sources.reverse, target)

/-- Copies what a name leads to. -/
def copyName (given : Given) (target : String) (c : Changing) (source : String) : Changing :=
  let deep := given.has 'r' || given.has 'R' || given.has 'a'
  let keepsLinks := (deep || given.has 'P' || given.has 'd') && !given.has 'L'
  let destination := destinationOf c.files source target
  let note := quoteName source ++ " -> " ++ quoteName destination
  let there := entryOfName c.files true destination
  match entryOfName c.files (!keepsLinks) source, there with
  | .error reason, _ => c.complain ("cp: cannot stat " ++ quoteName source ++ ": " ++ reason)
  | .ok (l, .directory), there =>
    if !deep then c.complain ("cp: -r not specified; omitting directory " ++ quoteName source)
    else
      match placeFor c.files true true destination, there with
      | .error failure, _ =>
        c.complain ("cp: cannot create directory " ++ quoteName destination ++ ": " ++
          reasonOf failure)
      | .ok place, .ok (_, .file _) | .ok place, .ok (_, .link _) =>
        if place = l then c
        else
          c.complain ("cp: cannot overwrite non-directory " ++ quoteName destination ++
            " with directory " ++ quoteName source)
      | .ok place, _ =>
        if l.isPrefixOf place then
          { c with files := c.files.put place .directory }.complain
            ("cp: cannot copy a directory, " ++ quoteName source ++ ", into itself, " ++
              quoteName destination)
        else { c with files := copyBelow c.files l place }.say given note
  | .ok (l, e), there =>
    let complaint (reason : String) : Changing :=
      c.complain ("cp: cannot create regular file " ++ quoteName destination ++ ": " ++ reason)
    match placeFor c.files (e matches .file _) false destination, there with
    | .error failure, _ => complaint (reasonOf failure)
    | .ok place, there =>
      if place = l then
        c.complain ("cp: " ++ quoteName source ++ " and " ++ quoteName destination ++
          " are the same file")
      else if there.toOption.isSome ∧ given.has 'n' then c
      else if (there.toOption.map Prod.snd) = some .directory then
        c.complain ("cp: cannot overwrite directory " ++ quoteName destination ++
          " with non-directory")
      else { c with files := c.files.put place e }.say given note

/-- The answer of the program that copies files. -/
def copyAnswer (fs : FileSystem) (arguments : List String) : Answer :=
  let t : OptionTable := {
    program := "cp", plain := ['r', 'R', 'a', 'f', 'p', 'v', 'n', 'P', 'L', 'd', 'i', 'u', 'x'],
    valued := ['t']
    names := [("recursive", 'r'), ("archive", 'a'), ("force", 'f'), ("verbose", 'v'),
      ("no-clobber", 'n'), ("no-dereference", 'P'), ("dereference", 'L'),
      ("target-directory", 't')] }
  answerTo t arguments fun given =>
    match sourcesAndTarget "cp" fs given with
    | .error a => a
    | .ok (sources, target) => (sources.foldl (copyName given target) { files := fs }).answer

/-- Moves what a name leads to. -/
def moveName (given : Given) (target : String) (c : Changing) (source : String) : Changing :=
  let destination := destinationOf c.files source target
  let note := "renamed " ++ quoteName source ++ " -> " ++ quoteName destination
  match entryOfName c.files false source with
  | .error reason => c.complain ("mv: cannot stat " ++ quoteName source ++ ": " ++ reason)
  | .ok (l, e) =>
    let isDirectory := e = .directory
    match placeFor c.files false isDirectory destination with
    | .error failure =>
      c.complain ("mv: cannot move " ++ quoteName source ++ " to " ++ quoteName destination ++
        ": " ++ reasonOf failure)
    | .ok place =>
      let there := c.files.get? place
      if place = l then
        c.complain ("mv: " ++ quoteName source ++ " and " ++ quoteName destination ++
          " are the same file")
      else if l.isPrefixOf place then
        c.complain ("mv: cannot move " ++ quoteName source ++ " to a subdirectory of itself, " ++
          quoteName destination)
      else if there.isSome ∧ given.has 'n' then c
      else if isDirectory ∧ there.any (· ≠ .directory) then
        c.complain ("mv: cannot overwrite non-directory " ++ quoteName destination ++
          " with directory " ++ quoteName source)
      else if !isDirectory ∧ there = some .directory then
        c.complain ("mv: cannot overwrite directory " ++ quoteName destination ++
          " with non-directory")
      else if c.files.listing place ≠ [] then
        c.complain ("mv: cannot move " ++ quoteName source ++ " to " ++ quoteName destination ++
          ": " ++ notEmpty)
      else { c with files := (copyBelow (c.files.remove place) l place).remove l }.say given note

/-- The answer of the program that moves files. -/
def moveAnswer (fs : FileSystem) (arguments : List String) : Answer :=
  let t : OptionTable := {
    program := "mv", plain := ['f', 'n', 'v', 'i', 'u'], valued := ['t']
    names := [("force", 'f'), ("no-clobber", 'n'), ("verbose", 'v'), ("target-directory", 't')] }
  answerTo t arguments fun given =>
    match sourcesAndTarget "mv" fs given with
    | .error a => a
    | .ok (sources, target) => (sources.foldl (moveName given target) { files := fs }).answer

/-- Makes a link to a source. -/
def linkName (given : Given) (target : String) (c : Changing) (source : String) : Changing :=
  let isPlain := given.has 'n' && (match c.files.locate false (.ofString target) with
    | .ok (.present _ (.link _)) => true
    | _ => false)
  let destination := if isPlain then target else destinationOf c.files source target
  let symbolic := given.has 's'
  let c : Changing :=
    match given.has 'f', c.files.locate false (.ofString destination) with
    | true, .ok (.present l _) => { c with files := c.files.remove l }
    | _, _ => c
  let complaint (reason : String) : String :=
    "ln: failed to create " ++ (if symbolic then "symbolic" else "hard") ++ " link " ++
      quoteName destination ++ (if symbolic then "" else " => " ++ quoteName source) ++ ": " ++
      reason
  let note := quoteName destination ++ (if symbolic then " -> " else " => ") ++ quoteName source
  let make (e : Entry) : Changing :=
    c.attempt given note complaint (c.files.make e (.ofString destination))
  if symbolic then make (.link source)
  else
    match entryOfName c.files false source with
    | .ok (_, .directory) =>
      c.complain ("ln: " ++ source ++ ": hard link not allowed for directory")
    | .ok (_, e) => make e
    | .error reason => c.complain ("ln: failed to access " ++ quoteName source ++ ": " ++ reason)

/-- The answer of the program that makes links. -/
def linkAnswer (fs : FileSystem) (arguments : List String) : Answer :=
  let t : OptionTable := {
    program := "ln", plain := ['s', 'f', 'n', 'v'], valued := ['t']
    names := [("symbolic", 's'), ("force", 'f'), ("no-dereference", 'n'), ("verbose", 'v'),
      ("target-directory", 't')] }
  answerTo t arguments fun given =>
    match given.value? 't', given.operands with
    | none, [source] => (linkName given "." { files := fs } source).answer
    | _, _ =>
      match sourcesAndTarget "ln" fs given with
      | .error a => a
      | .ok (sources, target) => (sources.foldl (linkName given target) { files := fs }).answer

end Scaffold.Shell
