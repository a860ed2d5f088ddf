import Scaffold.Tree.Render

/-!
# Templates by name

A directory of templates holds each template in a directory whose name is the name of the template
after `template-`.

* `Catalog.list`: the names of the templates in a directory.
* `Catalog.find`: the directory of a template.
* `renderTemplate`: a template rendered by name.
-/

namespace Scaffold.Tree

open Template

namespace Catalog

/-- What the name of a directory that holds a template starts with. -/
def marker : String := "template-"

/-- The name of the template in a directory of some name, if it holds one. -/
def templateName? (directoryName : String) : Option String :=
  if marker.toList.isPrefixOf directoryName.toList then
    some (String.ofList (directoryName.toList.drop marker.toList.length))
  else
    none

/-- The directory of a template. -/
def pathOf (root : Path) (name : String) : Path :=
  root.join (.ofString (marker ++ name))

/-- The names among some directory entries that are those of template directories. -/
def templatesAmong [Host] (fs : FileSystem) (root : Path) : List String → Except Failure (List String)
  | [] => .ok []
  | n :: ns => do
    let isTemplate ← Host.isDirectory fs (root.child n)
    let rest ← templatesAmong fs root ns
    match templateName? n with
    | some name => return if isTemplate then name :: rest else rest
    | none => return rest

/-- The names of the templates in a directory, in order; none if there is no such directory. -/
def list [Host] (fs : FileSystem) (root : Path) : Except Failure (List String) := do
  if ← Host.isDirectory fs root then
    let names ← templatesAmong fs root (← Host.list fs root)
    return sortNames names
  else
    return []

/-- The directory of a template, which has to be there. -/
def find [Host] (root : Path) (name : String) : Work Path := do
  let path := pathOf root name
  if ← Work.ask .unanswered (Host.isDirectory · path) then
    return path
  else
    throw (.unknownTemplate name path)

end Catalog

/-- Renders the template of a given name into a directory. -/
def renderTemplate [Host] (r : Renderer) (root : Path) (name : String) (output : Path) :
    Work (List Path) := do
  let source ← Catalog.find root name
  Work.note (.usingTemplate name output)
  r.renderTree source output

end Scaffold.Tree
