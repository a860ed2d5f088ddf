import Scaffold.Path
import Scaffold.Project.Name
import Scaffold.Settings.Value
import Scaffold.Template.Bindings

/-!
# Settings of a run

What the user has chosen for a project, and what follows from it.

* `Defaults`, `Settings`: the choices.
* `Settings.directory`, `Settings.displayName`, `Settings.packageName`, `Settings.moduleName`: the
  place and the names of the project.
* `Settings.bindings`: the bindings under which the template is rendered.
* `Settings.ofFields`, `Defaults.ofFields`: choices read from the fields of a record.
-/

namespace Scaffold

/-! ## Choices -/

/-- What is used where the user has not chosen. -/
structure Defaults where
  projectName : String := "velox-app"
  veloxUrl : String := "https://github.com/velox-apps/velox"
  veloxBranch : String := "main"
  deriving DecidableEq, Repr

/-- The choices for a project. -/
structure Settings where
  /-- The name of the project, if given; a single dot stands for the working directory. -/
  projectName : Option String := none
  /-- The template that the project is made from. -/
  template : String := "vanilla"
  /-- The identifier of the application, if given. -/
  identifier : Option String := none
  /-- Nothing is asked, and defaults are used. -/
  yes : Bool := false
  /-- A directory that is not empty is emptied without asking. -/
  force : Bool := false
  /-- A local checkout of Velox that the project depends on. -/
  veloxPath : Option String := none
  /-- The directory that the project goes into. -/
  workingDirectory : Path
  /-- The directory of the templates, unless the bundled ones are used. -/
  templatesDirectory : Option Path := none
  /-- The project is set up by `make` where that is needed. -/
  runBootstrap : Bool := true
  /-- What is done is told in detail. -/
  verbose : Bool := false
  /-- What is used where the user has not chosen. -/
  defaults : Defaults := {}
  deriving DecidableEq, Repr

/-- The identifier of an application in reverse domain form, from the name of the user and that of
the package. -/
def Defaults.identifier (_ : Defaults) (user : Option String) (packageName : String) : String :=
  "com." ++ Project.toPackageName (user.getD "") ++ "." ++ packageName

namespace Settings

/-! ## The place and the names of the project -/

/-- The name that stands for the working directory. -/
def hereName : String := "."

/-- The name of the project; an empty one counts as not given. -/
def resolvedProjectName (s : Settings) : String :=
  match s.projectName with
  | none | some "" => s.defaults.projectName
  | some name => name

/-- The project goes into the working directory itself. -/
def isCurrentDirectory (s : Settings) : Bool :=
  s.resolvedProjectName == hereName

/-- The directory of the project. -/
def directory (s : Settings) : Path :=
  if s.isCurrentDirectory then s.workingDirectory
  else s.workingDirectory.join (.ofString s.resolvedProjectName)

/-- The name of the project as people read it. -/
def displayName (s : Settings) : String :=
  if s.isCurrentDirectory then s.workingDirectory.name else s.resolvedProjectName

/-- The name of the package. -/
def packageName (s : Settings) : String :=
  if Project.isPackageName s.displayName then s.displayName
  else Project.toPackageName s.displayName

/-- The name of the module. -/
def moduleName (s : Settings) : String :=
  Project.toModuleName s.displayName

/-! ## Velox -/

/-- The local checkout that the project depends on; an empty one counts as not given. -/
def localVelox (s : Settings) : Option String :=
  match s.veloxPath with
  | none | some "" => none
  | some path => some path

/-- The dependency of the package on Velox. -/
def veloxDependency (s : Settings) : String :=
  match s.localVelox with
  | some path => ".package(path: \"" ++ path ++ "\")"
  | none =>
    ".package(url: \"" ++ s.defaults.veloxUrl ++ "\", branch: \"" ++ s.defaults.veloxBranch ++ "\")"

/-! ## Bindings -/

/-- The bindings under which the template is rendered. -/
def bindings (s : Settings) (identifier : String) : Template.Bindings where
  entries :=
    [("project_name", s.displayName),
      ("package_name", s.packageName),
      ("identifier", identifier),
      ("swift_module_name", s.moduleName),
      ("velox_dependency", s.veloxDependency),
      ("velox_local", if s.localVelox.isSome then "true" else "false")]

end Settings

/-! ## Reading -/

open Settings

namespace Defaults

/-- The defaults in the fields of a record. -/
def ofFields (fields : List (String × Value)) : Validated Defaults :=
  let standard : Defaults := {}
  Defaults.mk
    <$> readField fields "project_name" standard.projectName Value.toText
    <*> readField fields "velox_url" standard.veloxUrl Value.toText
    <*> readField fields "velox_branch" standard.veloxBranch Value.toText

/-- The defaults in a value, which has to be a record. -/
def ofValue : Value → Validated Defaults
  | .record fields => ofFields fields
  | _ => .mistake .notRecord

end Defaults

namespace Settings

/-- A path. -/
def toPath : Value → Validated Path
  | .text s => .ok (.ofString s)
  | _ => .mistake .notPath

/-- The settings in the fields of a record, given the directory that the program runs in. -/
def ofFields (here : Path) (fields : List (String × Value)) : Validated Settings :=
  let standard : Settings := { workingDirectory := here }
  Settings.mk
    <$> readField fields "project_name" standard.projectName (Value.toOptional Value.toText)
    <*> readField fields "template" standard.template Value.toText
    <*> readField fields "identifier" standard.identifier (Value.toOptional Value.toText)
    <*> readField fields "yes" standard.yes Value.toFlag
    <*> readField fields "force" standard.force Value.toFlag
    <*> readField fields "velox_path" standard.veloxPath (Value.toOptional Value.toText)
    <*> readField fields "cwd" standard.workingDirectory toPath
    <*> readField fields "templates_dir" standard.templatesDirectory (Value.toOptional toPath)
    <*> readField fields "run_bootstrap" standard.runBootstrap Value.toFlag
    <*> readField fields "verbose" standard.verbose Value.toFlag
    <*> readField fields "defaults" standard.defaults Defaults.ofValue

end Settings

end Scaffold
