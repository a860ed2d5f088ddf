import Scaffold.FileSystem.Basic
import Scaffold.FileSystem.Failure

/-!
# Walking along a path

A walk goes from name to name. A single dot stays where it is, which has to be a directory; two dots
lead to the directory above, and a symbolic link to where it points, for the last name only if asked
to. At most forty links are followed on one walk.

* `FileSystem.walk`: where a list of names leads from a directory.
* `FileSystem.locate`: where a path leads.
-/

namespace Scaffold

/-- Where a walk ends. -/
inductive Place where
  /-- At an entry. -/
  | present (location : Location) (entry : Entry)
  /-- In a directory that holds no entry of the last name. -/
  | absent (directory : Location) (name : String)
  deriving DecidableEq

namespace FileSystem

/-! ## Limits -/

/-- The most bytes that a name may have. -/
def nameLimit : Nat := 255

/-- The number of bytes from which on a path is too long. -/
def pathLimit : Nat := 4096

/-- The most links that are followed on one walk. -/
def linkLimit : Nat := 40

/-! ## Walks -/

/-- The names on the way to the target of a link. A slash at the end counts as one with a dot
behind it. -/
def linkNames (target : String) : List String :=
  let pieces := (Text.splitOn '/' target).filter (· ≠ "")
  if target.toList.getLast? = some '/' then pieces ++ ["."] else pieces

/-- A walk along names, in which `followLink` takes over at a link: it is given the directory of
the link, the target, and the names still to come. -/
def walkNames (fs : FileSystem) (followLast : Bool)
    (followLink : Location → String → List String → Except Fault Place) :
    Location → List String → Except Fault Place
  | d, [] => .ok (.present d .directory)
  | d, n :: ns =>
    if n = "." then walkNames fs followLast followLink d ns
    else if n = ".." then walkNames fs followLast followLink d.dropLast ns
    else if nameLimit < n.utf8ByteSize then .error .nameTooLong
    else
      match fs.get? (d ++ [n]) with
      | none => if ns = [] then .ok (.absent d n) else .error .noEntry
      | some .directory => walkNames fs followLast followLink (d ++ [n]) ns
      | some (.file content) =>
        if ns = [] then .ok (.present (d ++ [n]) (.file content)) else .error .notDirectory
      | some (.link target) =>
        if ns = [] ∧ followLast = false then .ok (.present (d ++ [n]) (.link target))
        else followLink d target ns

/-- The directory that a path starts from, for a walk that has come to `d`. -/
def startOf (d : Location) (p : Path) : Location :=
  if p.isAbsolute then [] else d

/-- A walk on which at most the given number of links are followed. -/
def walk (fs : FileSystem) (followLast : Bool) :
    Nat → Location → List String → Except Fault Place
  | 0 => walkNames fs followLast fun _ _ _ => .error .linkLoop
  | k + 1 => walkNames fs followLast fun d target ns =>
    walk fs followLast k (startOf d (.ofString target)) (linkNames target ++ ns)

/-- Where a path leads. The last name is followed if it is a link and `followLast` is set. -/
def locate (fs : FileSystem) (followLast : Bool) (p : Path) : Except Failure Place :=
  if p.toString.toList.contains '\x00' then .error .nullCharacter
  else if pathLimit ≤ p.toString.utf8ByteSize then .error (.system .nameTooLong p)
  else if p.isAbsolute = false ∧ fs.get? fs.workingDirectory ≠ some .directory then
    .error (.system .noEntry p)
  else
    (fs.walk followLast linkLimit (startOf fs.workingDirectory p) p.names).mapError (.system · p)

end FileSystem

end Scaffold
