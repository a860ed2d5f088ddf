import Scaffold.FileSystem.Access

/-!
# Hosts

A host is what the program runs on: the operating system and the interpreter. How a call ends does not
depend on the files alone. The host may refuse it, because of a permission or a fault of the disk, or
because the calls of the program lie too deep within each other; and a file that was opened may be left
with the first part of what was to be written. Where the depth runs out while a file is rendered, the host
refuses to have its template read.

* `Host`: what a host refuses, and what it breaks off.
* `Host.ample`: the host on which calls end as the files say. It is meant where no host is named.
* `Host.isDirectory`, `Host.list`, `Host.read`, `Host.makeDirectories`, `Host.write`: the operations
  of `FileSystem` as they are done on a host.
-/

namespace Scaffold

/-! ## What a host may do -/

/-- What a host is called for. -/
inductive Call where
  /-- To tell what a path leads to. -/
  | status
  /-- To list a directory. -/
  | list
  /-- To read a file. -/
  | read
  /-- To make a directory. -/
  | make
  /-- To open a file that is written. -/
  | write
  deriving DecidableEq, Repr

/-- Why a host does not go through with a call. -/
inductive Refusal where
  | fault (fault : Fault)
  | unencodable (reason : String)
  | tooDeep
  deriving DecidableEq, Repr

/-- The failure of a call on a path that is refused. -/
def Refusal.onPath (p : Path) : Refusal → Failure
  | .fault f => .system f p
  | .unencodable reason => .unencodable reason
  | .tooDeep => .tooDeep

/-- The failure of a call on an open file that is refused. -/
def Refusal.onOpenFile : Refusal → Failure
  | .fault f => .brokenOff f
  | .unencodable reason => .unencodable reason
  | .tooDeep => .tooDeep

/-- What the program runs on. -/
class Host where
  /-- The calls that are refused, whatever lies at the path. -/
  refuses : Call → FileSystem → Path → Option Refusal
  /-- The files that are left with the first bytes of a content when they have been opened to be
  written. -/
  breaksOff : FileSystem → Path → ByteArray → Option (Nat × Refusal)
  /-- The texts that cannot be encoded, with the reason. -/
  unencodable : String → Option String
  /-- That the host does not tell what lies at a path is not taken for there being nothing. -/
  not_absent_of_refuses : ∀ fs p r, refuses .status fs p = some r →
    FileSystem.meansAbsent (r.onPath p) = false

namespace Host

/-- A host that goes through with every call. -/
instance ample : Host where
  refuses _ _ _ := none
  breaksOff _ _ _ := none
  unencodable _ := none
  not_absent_of_refuses _ _ _ h := nomatch h

variable [Host]

/-! ## Questions -/

/-- The host goes through with a call. -/
def permits (call : Call) (fs : FileSystem) (p : Path) : Except Failure Unit :=
  match refuses call fs p with
  | none => .ok ()
  | some r => .error (r.onPath p)

/-- A path leads to a directory. -/
def isDirectory (fs : FileSystem) (p : Path) : Except Failure Bool := do
  permits .status fs p
  fs.isDirectory p

/-- The names in the directory that a path leads to. -/
def list (fs : FileSystem) (p : Path) : Except Failure (List String) := do
  permits .list fs p
  fs.list p

/-- The bytes of the file that a path leads to. -/
def read (fs : FileSystem) (p : Path) : Except Failure ByteArray := do
  permits .read fs p
  fs.read p

/-- Two paths lead to the same entry. If the host does not tell, they are taken for different ones. -/
def sameEntry (fs : FileSystem) (p q : Path) : Except Failure Bool :=
  match permits .status fs p, permits .status fs q with
  | .ok _, .ok _ => fs.sameEntry p q
  | _, _ => .ok false

/-- The bytes of a text. -/
def encode (text : String) : Except Failure ByteArray :=
  match unencodable text with
  | none => .ok text.toByteArray
  | some reason => .error (.unencodable reason)

/-! ## Changes -/

/-- Makes a directory and those above it. -/
def makeDirectories (fs : FileSystem) (existingOk : Bool) (p : Path) :
    Except Failure Unit × FileSystem :=
  match permits .make fs p with
  | .ok _ => fs.makeDirectories existingOk p
  | .error f => (.error f, fs)

/-- The file to which a path leads, opened to be written: where it lies. -/
def openFile (fs : FileSystem) (p : Path) : Except Failure Location := do
  permits .write fs p
  fs.fileTarget p

/-- Writes a file. It is opened, which makes it or empties it, and then it is given its content, of
which only the first bytes may get there. -/
def write (fs : FileSystem) (p : Path) (content : ByteArray) : Except Failure Unit × FileSystem :=
  match openFile fs p with
  | .error f => (.error f, fs)
  | .ok l =>
    let opened := fs.put l (.file .empty)
    match breaksOff opened p content with
    | none => (.ok (), opened.put l (.file content))
    | some (k, r) => (.error r.onOpenFile, opened.put l (.file (content.extract 0 k)))

end Host

end Scaffold
