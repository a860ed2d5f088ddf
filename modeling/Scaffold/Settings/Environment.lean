import Scaffold.Settings.Basic
import Scaffold.Text.Case

/-!
# Settings from the environment

Three environment variables give settings: `VELOX_TEMPLATES_DIR`, `VELOX_PATH` and
`VELOX_SKIP_BOOTSTRAP`. What is chosen elsewhere overrides them, unless it is nothing.

* `Environment.fields`: the fields that the environment gives.
* `Settings.ofEnvironment`: settings from the environment and what overrides it.
-/

namespace Scaffold

open Settings

/-- Environment variables and their texts. -/
abbrev Environment := List (String × String)

namespace Environment

/-- The text of a variable, if it is not empty. -/
def get? (env : Environment) (name : String) : Option String :=
  (env.lookup name).filter (· ≠ "")

/-- The texts, in small letters, by which setting up the project is turned off. -/
def skipWords : List String := ["1", "true", "yes"]

/-- The fields that the environment gives. -/
def fields (env : Environment) : List (String × Value) :=
  let templates :=
    (env.get? "VELOX_TEMPLATES_DIR").toList.map fun s => ("templates_dir", Value.text s)
  let velox := (env.get? "VELOX_PATH").toList.map fun s => ("velox_path", Value.text s)
  let skip := ((env.lookup "VELOX_SKIP_BOOTSTRAP").getD "")
  let bootstrap :=
    if Text.toLower skip ∈ skipWords then [("run_bootstrap", Value.flag false)] else []
  templates ++ velox ++ bootstrap

end Environment

/-- The settings from the environment and from fields that override it unless they are null. -/
def Settings.ofEnvironment (here : Path) (env : Environment) (overrides : List (String × Value)) :
    Validated Settings :=
  Settings.ofFields here (overrides.filter (fun x => !x.2.isNull) ++ env.fields)

end Scaffold
