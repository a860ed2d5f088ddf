import Scaffold.Path
import Scaffold.Text.Quoted

/-!
# Failures of file operations

* `Fault`: what the system can find wrong with an operation on a path.
* `Failure`: a fault at a path or with an open file, or something that the system is not even asked
  about.
* `Failure.message`: the wording, with the number of the fault and the path in quotes.
-/

namespace Scaffold

/-- What the system finds wrong with an operation. -/
inductive Fault where
  | noEntry
  | inputOutput
  | permissionDenied
  | exists
  | notDirectory
  | isDirectory
  | fileTooLarge
  | noSpace
  | nameTooLong
  | notEmpty
  | linkLoop
  deriving DecidableEq, Repr

/-- The number of a fault. -/
def Fault.number : Fault → Nat
  | .noEntry => 2
  | .inputOutput => 5
  | .permissionDenied => 13
  | .exists => 17
  | .notDirectory => 20
  | .isDirectory => 21
  | .fileTooLarge => 27
  | .noSpace => 28
  | .nameTooLong => 36
  | .notEmpty => 39
  | .linkLoop => 40

/-- The name of a fault. -/
def Fault.describe : Fault → String
  | .noEntry => "No such file or directory"
  | .inputOutput => "Input/output error"
  | .permissionDenied => "Permission denied"
  | .exists => "File exists"
  | .notDirectory => "Not a directory"
  | .isDirectory => "Is a directory"
  | .fileTooLarge => "File too large"
  | .noSpace => "No space left on device"
  | .nameTooLong => "File name too long"
  | .notEmpty => "Directory not empty"
  | .linkLoop => "Too many levels of symbolic links"

/-- Why an operation on a file failed. -/
inductive Failure where
  /-- The system found a fault. -/
  | system (fault : Fault) (path : Path)
  /-- The system found a fault with a file that had been opened. -/
  | brokenOff (fault : Fault)
  /-- The path holds the null character, which no path may. -/
  | nullCharacter
  /-- A text cannot be encoded, for a reason in words. -/
  | unencodable (reason : String)
  /-- The calls of the program lie too deep within each other. -/
  | tooDeep
  deriving DecidableEq, Repr

/-- The wording of a fault by itself. -/
def Fault.headline (fault : Fault) : String :=
  "[Errno " ++ toString fault.number ++ "] " ++ fault.describe

/-- The wording of a fault that concerns a path. -/
def Fault.message (fault : Fault) (path : String) : String :=
  fault.headline ++ ": " ++ Text.quote path

/-- The wording of a failure. -/
def Failure.message : Failure → String
  | .system fault path => fault.message path.toString
  | .brokenOff fault => fault.headline
  | .nullCharacter => "embedded null byte"
  | .unencodable reason => reason
  | .tooDeep => "maximum recursion depth exceeded"

/-- The same failure with another path. -/
def Failure.about (p : Path) : Failure → Failure
  | .system fault _ => .system fault p
  | f => f

end Scaffold
