import Scaffold.Text.Replace

/-!
# Paths

A path says how to walk to a file: from the working directory or from the root, through a list of
names. Repeated slashes, a slash at the end and single dots carry no meaning and are dropped when a
path is read; two dots are kept, because where they lead is a matter of the files.

* `Path.ofString`, `Path.toString`: reading and writing.
* `Path.join`: a path taken from another one; a path from the root replaces the other.
* `Path.name`, `Path.parent`: the last name, and the path without it.
-/

namespace Scaffold

/-! ## The type -/

/-- Where a path starts. -/
inductive Anchor where
  /-- The working directory. -/
  | here
  /-- The root. -/
  | root
  /-- The root, written with two slashes, which are kept. -/
  | doubleRoot
  deriving DecidableEq, Repr

/-- A path: a start and the names on the way. -/
structure Path where
  anchor : Anchor := .here
  names : List String := []
  deriving DecidableEq, Repr

namespace Path

/-! ## Reading and writing -/

/-- The start that a number of leading slashes stands for. -/
def anchorOf : Nat → Anchor
  | 0 => .here
  | 2 => .doubleRoot
  | _ => .root

/-- A piece between slashes that carries a meaning. -/
def isName (piece : String) : Bool :=
  piece ≠ "" && piece ≠ "."

/-- The names between the slashes of a text. -/
def namesOf (s : String) : List String :=
  (Text.splitOn '/' s).filter isName

/-- The path that a text writes. -/
def ofString (s : String) : Path :=
  ⟨anchorOf (s.toList.takeWhile (· == '/')).length, namesOf s⟩

/-- The text that writes a path; a single dot for the working directory. -/
def toString (p : Path) : String :=
  let names := "/".intercalate p.names
  match p.anchor with
  | .here => if p.names = [] then "." else names
  | .root => "/" ++ names
  | .doubleRoot => "//" ++ names

instance : ToString Path := ⟨toString⟩

/-! ## Parts and wholes -/

/-- A path starts at the root. -/
def isAbsolute (p : Path) : Bool :=
  p.anchor != .here

/-- The second path as seen from the first. -/
def join (p q : Path) : Path :=
  if q.isAbsolute then q else ⟨p.anchor, p.names ++ q.names⟩

/-- The path of an entry of a directory, whose name is one piece. -/
def child (p : Path) (name : String) : Path :=
  ⟨p.anchor, p.names ++ [name]⟩

/-- The last name; empty if there is none. -/
def name (p : Path) : String :=
  p.names.getLast?.getD ""

/-- The path without its last name. -/
def parent (p : Path) : Path :=
  ⟨p.anchor, p.names.dropLast⟩

/-- A path from the root replaces the one before it. -/
theorem join_of_isAbsolute {p q : Path} (h : q.isAbsolute = true) : p.join q = q := by
  simp [join, h]

/-- Any other path goes on from it. -/
theorem join_of_not_isAbsolute {p q : Path} (h : q.isAbsolute = false) :
    p.join q = ⟨p.anchor, p.names ++ q.names⟩ := by
  simp [join, h]

@[simp] theorem name_child (p : Path) (n : String) : (p.child n).name = n := by
  simp [name, child]

@[simp] theorem parent_child (p : Path) (n : String) : (p.child n).parent = p := by
  simp [parent, child]

end Path

end Scaffold
