import Scaffold.Tree.Workspace

/-!
# The target of a project

A project is made in a directory that is empty but for what is kept there.

* `FileSystem.removeBelow`: all that lies in a directory taken away, entry by entry.
* `FileSystem.removeTree`, `FileSystem.unlink`: an entry of a directory taken away, with all below it
  or alone. `FileSystem.removeEntry` chooses between the two.
* `FileSystem.clearDirectory`: the entries of a directory taken away in turn, but for those of some
  names.
* `Work.prepareTarget`: the directory of a project made, or emptied.
-/

namespace Scaffold

namespace FileSystem

/-! ## Taking away what lies in a directory -/

/-- The most names that an entry lies below the root. -/
def height (fs : FileSystem) : Nat :=
  fs.entries.foldr (fun x k => max x.1.length k) 0

/-- Takes away the entry of a name in the directory at a location: a directory when it has been emptied,
and anything else as it is, so that no link is followed. -/
def removeIn (empty : FileSystem → Location → FileSystem) (d : Location) (fs : FileSystem) (n : String) :
    FileSystem :=
  match fs.get? (d ++ [n]) with
  | some .directory => (empty fs (d ++ [n])).erase (d ++ [n])
  | _ => fs.erase (d ++ [n])

/-- Takes away all that lies in the directory at a location, entry by entry. The first argument bounds how
deep entries lie below the directory. -/
def removeBelow : Nat → FileSystem → Location → FileSystem
  | 0, fs, _ => fs
  | depth + 1, fs, d => (fs.listing d).foldl (removeIn (removeBelow depth) d) fs

/-! ## Taking away an entry -/

/-- The entry of a given name in the directory that a path leads to, and where it lies. If it is a link,
it is not followed. -/
def entryIn (fs : FileSystem) (p : Path) (n : String) : Except Failure (Location × Entry) :=
  match fs.find p with
  | .ok (d, .directory) =>
    match fs.get? (d ++ [n]) with
    | some e => .ok (d ++ [n], e)
    | none => .error (.system .noEntry (p.child n))
  | .ok _ => .error (.system .notDirectory (p.child n))
  | .error f => .error (f.about (p.child n))

/-- The entry of a given name in the directory that a path leads to is a link. -/
def isLinkIn (fs : FileSystem) (p : Path) (n : String) : Bool :=
  match fs.entryIn p n with
  | .ok (_, .link _) => true
  | _ => false

/-- Takes away an entry that is no directory. -/
def unlink (fs : FileSystem) (p : Path) (n : String) : Except Failure Unit × FileSystem :=
  match fs.entryIn p n with
  | .ok (_, .directory) => (.error (.system .isDirectory (p.child n)), fs)
  | .ok (l, _) => (.ok (), fs.erase l)
  | .error f => (.error f, fs)

/-- Takes away a directory in which there is nothing. -/
def removeDirectory (fs : FileSystem) (p : Path) (n : String) : Except Failure Unit × FileSystem :=
  match fs.entryIn p n with
  | .ok (l, .directory) =>
    if fs.listing l = [] then (.ok (), fs.erase l)
    else (.error (.system .notEmpty (p.child n)), fs)
  | .ok _ => (.error (.system .notDirectory (p.child n)), fs)
  | .error f => (.error f, fs)

/-- Takes away a directory with all that lies below it. The path is followed once to open the directory,
and once more to take it away when it is empty. -/
def removeTree (fs : FileSystem) (p : Path) (n : String) : Except Failure Unit × FileSystem :=
  match fs.entryIn p n with
  | .ok (l, .directory) => (fs.removeBelow fs.height l).removeDirectory p n
  | .ok _ => (.error (.system .notDirectory (p.child n)), fs)
  | .error f => (.error f, fs)

/-- Takes away an entry: a directory with all that lies below it, anything else as it is. A link that
leads to a directory is taken away itself. -/
def removeEntry (fs : FileSystem) (p : Path) (n : String) : Except Failure Unit × FileSystem :=
  match fs.isDirectory (p.child n) with
  | .ok isDir => if isDir && !fs.isLinkIn p n then fs.removeTree p n else fs.unlink p n
  | .error f => (.error f, fs)

/-! ## Emptying a directory -/

/-- Takes away the entries of given names in turn, but for those that are kept. The first failure ends
this; what has gone by then is gone. -/
def clearEntries (kept : List String) (p : Path) :
    FileSystem → List String → Except Failure Unit × FileSystem
  | fs, [] => (.ok (), fs)
  | fs, n :: ns =>
    if n ∈ kept then clearEntries kept p fs ns
    else
      match fs.removeEntry p n with
      | (.ok (), fs') => clearEntries kept p fs' ns
      | (.error f, fs') => (.error f, fs')

/-- Empties the directory that a path leads to, but for entries of some names. -/
def clearDirectory (fs : FileSystem) (kept : List String) (p : Path) :
    Except Failure Unit × FileSystem :=
  match fs.list p with
  | .ok names => clearEntries kept p fs names
  | .error f => (.error f, fs)

end FileSystem

namespace Tree

/-! ## Preparing -/

/-- What is kept in a directory that is emptied: the history of the project. -/
def keptNames : List String := [".git"]

/-- Makes the directory of a project, with those above it, or empties it if it is there. -/
def Work.prepareTarget (target : Path) : Work Unit := do
  let onFailure := Problem.ofFailure .prepareDirectory target
  if ← Work.ask onFailure (·.exists? target) then
    Work.attempt onFailure (·.clearDirectory keptNames target)
  else
    Work.attempt onFailure (·.makeDirectories false target)

end Tree

end Scaffold
