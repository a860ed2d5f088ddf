import Scaffold.FileSystem.Failure
import Scaffold.Template.Error
import Scaffold.Text.Utf8

/-!
# What can go wrong with a project

* `Problem`: why a template tree is not rendered or a project not made.
* `Problem.message`: the wording.
* `Problem.isExpected`: the problems that the command line reports; any other ends the program.
-/

namespace Scaffold.Tree

/-- What was being done to a file or directory. -/
inductive Activity where
  | createDirectory
  | listDirectory
  | readTemplate
  | writeFile
  | copyFile
  | useDirectory
  | prepareDirectory
  deriving DecidableEq, Repr

/-- The opening words of the report of a failed activity. -/
def Activity.describe : Activity → String
  | .createDirectory => "Failed to create directory "
  | .listDirectory => "Failed to list "
  | .readTemplate => "Failed to read template "
  | .writeFile => "Failed to write "
  | .copyFile => "Failed to copy "
  | .useDirectory => "Cannot use "
  | .prepareDirectory => "Failed to prepare "

/-- Why an activity failed. -/
inductive Cause where
  | system (fault : Fault) (path : Path)
  | brokenOff (fault : Fault)
  | copyBrokenOff (fault : Fault) (source target : Path)
  | undecodable (malformed : Text.Utf8.Malformed)
  | sameFile (source target : Path)
  deriving DecidableEq, Repr

/-- The wording of a cause. -/
def Cause.message : Cause → String
  | .system fault path => fault.message path.toString
  | .brokenOff fault => fault.headline
  | .copyBrokenOff fault source target =>
    fault.message source.toString ++ " -> " ++ Text.quote target.toString
  | .undecodable malformed => malformed.message
  | .sameFile source target =>
    "PosixPath(" ++ Text.quote source.toString ++ ") and PosixPath(" ++
      Text.quote target.toString ++ ") are the same file"

/-- Why a project is not made. -/
inductive Problem where
  /-- A template, or a name in a template tree, does not render. -/
  | template (error : Template.RenderError)
  /-- The root of a template tree is no directory. -/
  | missingRoot (root : Path)
  /-- There is no template of a name. -/
  | unknownTemplate (name : String) (path : Path)
  /-- Something could not be done to a file or directory. -/
  | failed (activity : Activity) (subject : Path) (cause : Cause)
  /-- A call failed in a way that is not taken up where it was made. -/
  | unanswered (failure : Failure)
  deriving DecidableEq, Repr

namespace Problem

/-- The wording of a problem. -/
def message : Problem → String
  | .template error => error.message
  | .missingRoot root => "Template directory not found: " ++ root.toString
  | .unknownTemplate _ path => "Template not found: " ++ path.toString
  | .failed activity subject cause =>
    activity.describe ++ subject.toString ++ ": " ++ cause.message
  | .unanswered failure => failure.message

/-- A problem that is reported to the user. -/
def isExpected : Problem → Bool
  | .template (.evaluationError (.notAStatement _)) => false
  | .unanswered _ => false
  | _ => true

/-- The problem that a failure is when it comes during an activity. Only the faults of the system are
taken up: a path with a null character or a text without an encoding does not get to the system. -/
def ofFailure (activity : Activity) (subject : Path) : Failure → Problem
  | .system fault path => .failed activity subject (.system fault path)
  | .brokenOff fault => .failed activity subject (.brokenOff fault)
  | f => .unanswered f

/-- The problem that a failure is when it comes while a file is copied. -/
def ofCopyFailure (source target : Path) : Failure → Problem
  | .brokenOff fault => .failed .copyFile source (.copyBrokenOff fault source target)
  | f => .ofFailure .copyFile source f

end Problem

end Scaffold.Tree
