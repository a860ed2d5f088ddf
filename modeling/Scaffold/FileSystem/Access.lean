import Scaffold.FileSystem.Walk

/-!
# File operations

What the program asks of the file system. A question returns an answer or a failure; a change
returns the changed file system as well, because a change that fails may have done a part of its
work.

* `FileSystem.isDirectory`, `FileSystem.exists?`, `FileSystem.list`, `FileSystem.read`: questions.
* `FileSystem.write`, `FileSystem.makeDirectory`, `FileSystem.makeDirectories`: changes.
-/

namespace Scaffold

namespace FileSystem

/-! ## Questions -/

/-- What a path leads to in the end. -/
def find (fs : FileSystem) (p : Path) : Except Failure (Location × Entry) := do
  match ← fs.locate true p with
  | .present l e => .ok (l, e)
  | .absent _ _ => .error (.system .noEntry p)

/-- A failure that says only that there is nothing at a path. -/
def meansAbsent : Failure → Bool
  | .nullCharacter | .unencodable _ => true
  | .system .noEntry _ | .system .notDirectory _ | .system .linkLoop _ => true
  | _ => false

/-- A question about what a path leads to, whose answer is no if there is nothing. -/
def ask (fs : FileSystem) (question : Entry → Bool) (p : Path) : Except Failure Bool :=
  match fs.find p with
  | .ok (_, e) => .ok (question e)
  | .error f => if meansAbsent f then .ok false else .error f

/-- A path leads to something. -/
def exists? (fs : FileSystem) (p : Path) : Except Failure Bool :=
  fs.ask (fun _ => true) p

/-- A path leads to a directory. -/
def isDirectory (fs : FileSystem) (p : Path) : Except Failure Bool :=
  fs.ask (· = .directory) p

/-- The names in the directory that a path leads to, as the system lists them. -/
def list (fs : FileSystem) (p : Path) : Except Failure (List String) := do
  match ← fs.find p with
  | (l, .directory) => .ok (fs.listing l)
  | _ => .error (.system .notDirectory p)

/-- The bytes of the file that a path leads to. -/
def read (fs : FileSystem) (p : Path) : Except Failure ByteArray := do
  match ← fs.find p with
  | (_, .file content) => .ok content
  | _ => .error (.system .isDirectory p)

/-- Two paths lead to the same entry. -/
def sameEntry (fs : FileSystem) (p q : Path) : Except Failure Bool :=
  match fs.find p, fs.find q with
  | .error .nullCharacter, _ | _, .error .nullCharacter => .error .nullCharacter
  | .ok (l, _), .ok (l', _) => .ok (l = l')
  | _, _ => .ok false

/-! ## Changes -/

/-- Where the file lies that is written along a path, or where it is made if it is not there. -/
def fileTarget (fs : FileSystem) (p : Path) : Except Failure Location := do
  match ← fs.locate true p with
  | .present _ .directory => .error (.system .isDirectory p)
  | .present l _ => .ok l
  | .absent d n => .ok (d ++ [n])

/-- Writes a file, which is made if it is not there. -/
def write (fs : FileSystem) (p : Path) (content : ByteArray) : Except Failure FileSystem := do
  match ← fs.locate true p with
  | .present _ .directory => .error (.system .isDirectory p)
  | .present l _ => .ok (fs.put l (.file content))
  | .absent d n => .ok (fs.put (d ++ [n]) (.file content))

/-- Makes something new under the last name of a path, where nothing may be yet. -/
def make (fs : FileSystem) (e : Entry) (p : Path) : Except Failure FileSystem := do
  match ← fs.locate false p with
  | .present _ _ => .error (.system .exists p)
  | .absent d n => .ok (fs.put (d ++ [n]) e)

/-- Makes a directory; its parent has to be there. -/
def makeDirectory (fs : FileSystem) (p : Path) : Except Failure FileSystem :=
  fs.make .directory p

/-- A failure to make a directory is none if a directory is there already and that is fine. -/
def excuse (fs : FileSystem) (existingOk : Bool) (p : Path) (f : Failure) :
    Except Failure Unit × FileSystem :=
  match f with
  | .system _ _ =>
    if existingOk then
      match fs.isDirectory p with
      | .ok true => (.ok (), fs)
      | .ok false => (.error f, fs)
      | .error f' => (.error f', fs)
    else
      (.error f, fs)
  | _ => (.error f, fs)

/-- Makes a directory whose parent has to be there. -/
def makeLast (fs : FileSystem) (existingOk : Bool) (p : Path) : Except Failure Unit × FileSystem :=
  match fs.makeDirectory p with
  | .ok fs' => (.ok (), fs')
  | .error (.system .noEntry q) => (.error (.system .noEntry q), fs)
  | .error f => fs.excuse existingOk p f

/-- Makes a directory and the directories above it that are missing. The first argument bounds how
many of these are looked at. -/
def makeWithParents : Nat → FileSystem → Bool → Path → Except Failure Unit × FileSystem
  | 0, fs, existingOk, p => fs.makeLast existingOk p
  | k + 1, fs, existingOk, p =>
    match fs.makeDirectory p with
    | .ok fs' => (.ok (), fs')
    | .error (.system .noEntry q) =>
      if p.names = [] then (.error (.system .noEntry q), fs)
      else
        match makeWithParents k fs true p.parent with
        | (.ok (), fs') => fs'.makeLast existingOk p
        | (.error f, fs') => (.error f, fs')
    | .error f => fs.excuse existingOk p f

/-- Makes a directory and those above it; a directory that is there already is fine only if
`existingOk` is set. -/
def makeDirectories (fs : FileSystem) (existingOk : Bool) (p : Path) :
    Except Failure Unit × FileSystem :=
  makeWithParents p.names.length fs existingOk p

end FileSystem

end Scaffold
