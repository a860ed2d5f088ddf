import Scaffold.Template.Render
import Scaffold.Text.Replace

/-!
# Conventions for file names

How the name of a file or directory in a template tree becomes the name of what is made from it.

* `Conventions.default`: the conventions in use when none are given.
* `directoryName`: the name made from that of a directory.
* `fileName`: the name made from that of a file, and whether its content is a template too.
-/

namespace Scaffold.Tree

open Template

/-- The conventions for the names in a template tree. -/
structure Conventions where
  /-- The ending that marks a file whose content is a template. -/
  templateSuffix : String
  /-- The part of a name that stands for the name of the module. -/
  modulePlaceholder : String
  /-- The binding that holds the name of the module. -/
  moduleBinding : String
  /-- Files that get another name as a whole. -/
  renames : List (String × String)
  /-- Entries that are passed over. -/
  ignoredNames : List String
  deriving DecidableEq, Repr

/-- The conventions in use when none are given. -/
def Conventions.default : Conventions where
  templateSuffix := ".lte"
  modulePlaceholder := "__swift_module_name__"
  moduleBinding := "swift_module_name"
  renames := [("_gitignore", ".gitignore")]
  ignoredNames := [".DS_Store", "Thumbs.db"]

instance : Inhabited Conventions := ⟨.default⟩

/-- A name with the placeholder replaced, if the module has a name. -/
def Conventions.placeModule (c : Conventions) (b : Bindings) (name : String) : String :=
  match b.get? c.moduleBinding with
  | some module => Text.replaceAll name c.modulePlaceholder module
  | none => name

/-- The name of the directory made from a directory. -/
def Conventions.directoryName (c : Conventions) (b : Bindings) (name : String) :
    Except RenderError String :=
  render (c.placeModule b name) b

/-- A name without the template suffix, and whether it had one. The empty suffix marks nothing. -/
def Conventions.stripSuffix (c : Conventions) (name : String) : String × Bool :=
  if c.templateSuffix = "" then (name, false)
  else
    match Text.dropSuffix? name c.templateSuffix with
    | some stem => (stem, true)
    | none => (name, false)

/-- The name of the file made from a file, and whether the content is a template. -/
def Conventions.fileName (c : Conventions) (b : Bindings) (name : String) :
    Except RenderError (String × Bool) :=
  let placed := c.placeModule b name
  let renamed := (c.renames.lookup placed).getD placed
  let (stem, isTemplate) := c.stripSuffix renamed
  (render stem b).map (·, isTemplate)

end Scaffold.Tree
