import Scaffold.Shell.Expand

/-!
# Redirections

A redirection leads a descriptor to a file, to a text, or to where another descriptor leads.

* `redirect`: the effect of a redirection.
* `underRedirections`: what is done under some redirections.
-/

namespace Scaffold.Shell

/-! ## Files -/

/-- The sink of the file that a path names, emptied unless bytes are to be appended. -/
def openSink (m : Machine) (append : Bool) (path : String) : Except String (Sink × FileSystem) :=
  let p := Path.ofString path
  let cannot (reason : String) := "cannot create " ++ path ++ ": " ++ reason
  let keep := append && (match m.files.find p with
    | .ok (_, .file _) => true
    | _ => false)
  match (if keep then .ok m.files else m.files.write p ⟨#[]⟩) with
  | .ok files =>
    match files.find p with
    | .ok (l, _) => .ok (.file l, files)
    | .error _ => .error (cannot "Directory nonexistent")
  | .error (.system .noEntry _) => .error (cannot "Directory nonexistent")
  | .error (.system fault _) => .error (cannot fault.describe)
  | .error _ => .error (cannot "Directory nonexistent")

/-- The descriptors that have names like files. -/
def descriptorNames : List (String × Nat) :=
  [("/dev/stdin", 0), ("/dev/stdout", 1), ("/dev/stderr", 2), ("/dev/fd/0", 0), ("/dev/fd/1", 1),
    ("/dev/fd/2", 2)]

/-- A file is there already and would be lost. -/
def wouldReplace (m : Machine) (path : String) : Bool :=
  match m.files.find (.ofString path) with
  | .ok (_, .file _) => true
  | _ => false

/-! ## Redirections -/

/-- A descriptor that reads some bytes. -/
def readingBytes (m : Machine) (descriptor : Nat) (bs : Bytes) : Machine :=
  let (i, m) := m.addInput bs
  m.lead descriptor (some (.input i))

/-- A descriptor that reads a file, or why it cannot. -/
def readingFile (m : Machine) (descriptor : Nat) (path : String) : Except String Machine :=
  match m.files.read (.ofString path) with
  | .ok content => .ok (readingBytes m descriptor content.data.toList)
  | .error (.system .isDirectory _) => .ok (readingBytes m descriptor [])
  | .error (.system .noEntry _) => .error ("cannot open " ++ path ++ ": No such file")
  | .error (.system fault _) => .error ("cannot open " ++ path ++ ": " ++ fault.describe)
  | .error _ => .error ("cannot open " ++ path ++ ": No such file")

/-- A descriptor that prints to a file, or why it cannot. -/
def printingTo (m : Machine) (descriptor : Nat) (append : Bool) (path : String) :
    Except String Machine := do
  let (sink, files) ← openSink m append path
  return { m with files }.lead descriptor (some (.output sink))

/-- A descriptor that leads to where another one leads, or why it cannot. -/
def duplicating (m : Machine) (descriptor : Nat) (other : String) : Except String Machine :=
  if other = "-" then .ok (m.lead descriptor none)
  else
    match other.toNat? with
    | none => .error "Syntax error: Bad fd number"
    | some d =>
      match m.channel? d with
      | some c => .ok (m.lead descriptor (some c))
      | none => .error (other ++ ": Bad file descriptor")

/-- The effect of a redirection to a path, or why it cannot be made. -/
def leadTo (m : Machine) (descriptor : Nat) (kind : Redirecting) (path : String) :
    Except String Machine :=
  match kind, path, descriptorNames.lookup path with
  | .document _, text, _ => .ok (readingBytes m descriptor (bytesOf text))
  | .duplicate, other, _ => duplicating m descriptor other
  | _, _, some d => .ok (m.lead descriptor (m.channel? d))
  | .read, "/dev/null", _ | .readWrite, "/dev/null", _ => .ok (readingBytes m descriptor [])
  | _, "/dev/null", _ => .ok (m.lead descriptor (some (.output .nowhere)))
  | .read, path, _ => readingFile m descriptor path
  | .readWrite, path, _ =>
    match m.files.find (.ofString path) with
    | .ok _ => readingFile m descriptor path
    | .error _ => do
      let (_, files) ← openSink m false path
      return readingBytes { m with files } descriptor []
  | .append, path, _ => printingTo m descriptor true path
  | .write, path, _ =>
    if m.hasOption 'C' && wouldReplace m path then
      .error ("cannot create " ++ path ++ ": File exists")
    else printingTo m descriptor false path
  | .replace, path, _ => printingTo m descriptor false path

/-- The effect of a redirection; the flag says that it was made. -/
def redirect (run : Runner) (r : Redirection Word) (m : Machine) : Bool × Machine :=
  let (path, m) := expandWhole run m r.target
  if m.goesOn then
    match leadTo m r.descriptor r.kind path with
    | .ok m => (true, m)
    | .error message => (false, m.complain message 2)
  else (false, m)

/-- The effect of several redirections, up to the first that cannot be made. -/
def redirectAll (run : Runner) : List (Redirection Word) → Machine → Bool × Machine
  | [], m => (true, m)
  | r :: rs, m =>
    match redirect run r m with
    | (true, m) => redirectAll run rs m
    | (false, m) => (false, m)

/-- What is done under some redirections, unless one of them cannot be made. -/
def underRedirections (run : Runner) (rs : List (Redirection Word)) (act : Machine → Machine)
    (m : Machine) : Machine :=
  let (made, inner) := redirectAll run rs m
  let after := if made then act inner else inner
  { after with channels := m.channels }

end Scaffold.Shell
