import Scaffold.Tree.Conventions
import Scaffold.Tree.Workspace

/-!
# Rendering a template tree

A tree of files is rendered into a directory: every name through the conventions, the content of
the files that are marked as templates too, and all other files as they are. Entries are taken in
the order of their names, and a directory is finished before the entry that follows it. The first
problem ends the work.

* `Renderer`: the bindings and the conventions of one rendering.
* `Renderer.renderFile`: one template file.
* `Renderer.renderTree`: a whole tree; the answer lists the files written, in order.
-/

namespace Scaffold.Tree

open Template

/-- The bindings and the conventions of one rendering. -/
structure Renderer where
  bindings : Bindings := {}
  conventions : Conventions := .default
  deriving DecidableEq, Repr

namespace Renderer

/-! ## Names and texts -/

/-- The text of a template. -/
def renderText (r : Renderer) (template : String) : Except RenderError String :=
  render template r.bindings

/-- The name of the directory made from a directory. -/
def directoryName (r : Renderer) (name : String) : Except RenderError String :=
  r.conventions.directoryName r.bindings name

/-- The name of the file made from a file, and whether its content is a template. -/
def fileName (r : Renderer) (name : String) : Except RenderError (String × Bool) :=
  r.conventions.fileName r.bindings name

/-! ## Files -/

/-- Writes what a template file renders to. Nothing is written unless all of it renders. -/
def renderFile [Host] (r : Renderer) (source target : Path) : Work Unit := do
  let template ← Work.readTemplate source
  let text ← Work.lift .template (r.renderText template)
  Work.writeText target text

/-! ## Trees -/

/-- Renders the entries of given names in turn; the answer puts their files together. -/
def visitAll (visit : String → Work (List Path)) : List String → Work (List Path)
  | [] => pure []
  | n :: ns => do
    let first ← visit n
    let rest ← visitAll visit ns
    return first ++ rest

/-- Renders or copies the file of a given name. -/
def visitFile [Host] (r : Renderer) (directory output : Path) (name : String) : Work (List Path) := do
  let source := directory.child name
  let (targetName, isTemplate) ← Work.lift .template (r.fileName name)
  let target := output.join (.ofString targetName)
  if isTemplate then
    Work.note (.rendering source target)
    r.renderFile source target
  else
    Work.note (.copying source target)
    Work.copy source target
  return [target]

/-- Renders the entry of a given name; `descend` renders a directory into another. -/
def visit [Host] (r : Renderer) (descend : Path → Path → Work (List Path))
    (directory output : Path) (name : String) : Work (List Path) := do
  let source := directory.child name
  if name ∈ r.conventions.ignoredNames then
    Work.note (.skipping source)
    return []
  else if ← Work.ask .unanswered (Host.isDirectory · source) then
    let targetName ← Work.lift .template (r.directoryName name)
    let target := output.join (.ofString targetName)
    Work.makeDirectories target
    descend source target
  else
    r.visitFile directory output name

/-- Renders the entries of a directory into another, to a given depth. A path so deep is longer
than the system takes. -/
def renderDirectory [Host] (r : Renderer) : Nat → Path → Path → Work (List Path)
  | 0, directory, _ =>
    throw (.failed .listDirectory directory (.system .nameTooLong directory))
  | depth + 1, directory, output => do
    let names ← Work.ask (.ofFailure .listDirectory directory) (Host.list · directory)
    visitAll (r.visit (renderDirectory r depth) directory output) (sortNames names)

/-- Renders a template tree into a directory, which is made if it is not there. -/
def renderTree [Host] (r : Renderer) (root output : Path) : Work (List Path) := do
  unless ← Work.ask .unanswered (Host.isDirectory · root) do
    throw (.missingRoot root)
  Work.makeDirectories output
  r.renderDirectory FileSystem.pathLimit root output

end Renderer

end Scaffold.Tree
