import Scaffold.Host
import Scaffold.Tree.Problem

/-!
# Working on files

Rendering a tree is work on a file system that may stop with a problem; what was done before stays
done. Each step that is worth telling is noted.

* `Event`: what is noted.
* `Work`: work on a file system, with an answer or a problem at its end.
* `Work.readTemplate`, `Work.writeText`, `Work.copy`, `Work.makeDirectories`: the steps of the work.
-/

namespace Scaffold.Tree

/-! ## Events -/

/-- A step that is worth telling. -/
inductive Event where
  /-- An entry is passed over. -/
  | skipping (entry : Path)
  /-- A file is made from a template. -/
  | rendering (source target : Path)
  /-- A file is copied. -/
  | copying (source target : Path)
  /-- A template is about to be rendered into a directory. -/
  | usingTemplate (name : String) (output : Path)
  /-- So many files were written to a directory. -/
  | wrote (count : Nat) (output : Path)
  deriving DecidableEq, Repr

/-- How much an event matters. -/
inductive Level where
  | debug
  | info
  deriving DecidableEq, Repr

namespace Event

/-- The level of an event: single entries matter less than the whole. -/
def level : Event → Level
  | .skipping _ | .rendering _ _ | .copying _ _ => .debug
  | .usingTemplate _ _ | .wrote _ _ => .info

/-- The wording of an event. -/
def message : Event → String
  | .skipping entry => "Skipping " ++ entry.toString
  | .rendering source target => "Rendering " ++ source.toString ++ " -> " ++ target.toString
  | .copying source target => "Copying " ++ source.toString ++ " -> " ++ target.toString
  | .usingTemplate name output =>
    "Rendering template '" ++ name ++ "' into " ++ output.toString
  | .wrote count output => "Wrote " ++ toString count ++ " files to " ++ output.toString

end Event

/-! ## Work -/

/-- The files that are worked on, and what has been noted so far. -/
structure Workspace where
  files : FileSystem
  events : List Event := []
  deriving DecidableEq

/-- Work on files: it ends with an answer or a problem, and either way leaves a workspace. -/
abbrev Work := EStateM Problem Workspace

namespace Work

/-- Notes an event. -/
def note (e : Event) : Work Unit :=
  modify fun w => { w with events := w.events ++ [e] }

/-- Asks a question; a failure becomes a problem. -/
def ask {α : Type} (onFailure : Failure → Problem) (question : FileSystem → Except Failure α) :
    Work α := do
  match question (← get).files with
  | .ok a => return a
  | .error f => throw (onFailure f)

/-- Replaces the files. -/
def setFiles (fs : FileSystem) : Work Unit :=
  modify fun w => { w with files := fs }

/-- Makes a change of which a part may stay when it fails. -/
def attempt (onFailure : Failure → Problem)
    (action : FileSystem → Except Failure Unit × FileSystem) : Work Unit := do
  let (outcome, fs) := action (← get).files
  setFiles fs
  match outcome with
  | .ok () => return
  | .error f => throw (onFailure f)

/-- An answer, or a problem. -/
def lift {α ε : Type} (onError : ε → Problem) : Except ε α → Work α
  | .ok a => pure a
  | .error e => throw (onError e)

/-! ## Steps -/

variable [Host]

/-- Makes a directory and those above it. -/
def makeDirectories (p : Path) : Work Unit :=
  attempt (.ofFailure .createDirectory p) (Host.makeDirectories · true p)

/-- The text of a template file. -/
def readTemplate (source : Path) : Work String := do
  let content ← ask (.ofFailure .readTemplate source) (Host.read · source)
  lift (fun m => .failed .readTemplate source (.undecodable m)) (Text.Utf8.decode content)

/-- Writes a file. The text is encoded before the file is opened. -/
def writeText (target : Path) (text : String) : Work Unit := do
  let content ← lift .unanswered (Host.encode text)
  attempt (.ofFailure .writeFile target) (Host.write · target content)

/-- Copies a file, byte for byte, unless it would be copied on itself. -/
def copy (source target : Path) : Work Unit := do
  let same ← ask (.ofFailure .copyFile source) (Host.sameEntry · source target)
  if same then throw (.failed .copyFile source (.sameFile source target))
  let content ← ask (.ofFailure .copyFile source) (Host.read · source)
  attempt (.ofCopyFailure source target) (Host.write · target content)

end Work

end Scaffold.Tree
