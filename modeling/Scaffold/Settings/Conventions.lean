import Scaffold.Settings.Value
import Scaffold.Tree.Conventions

/-!
# Conventions for file names from a record

* `Conventions.ofFields`: the conventions in the fields of a record; what is missing stays as in
  `Conventions.default`.
-/

namespace Scaffold.Tree

open Settings

/-- The conventions in the fields of a record. -/
def Conventions.ofFields (fields : List (String × Value)) : Validated Conventions :=
  let standard := Conventions.default
  Conventions.mk
    <$> readField fields "template_suffix" standard.templateSuffix Value.toText
    <*> readField fields "module_placeholder" standard.modulePlaceholder Value.toText
    <*> readField fields "module_binding" standard.moduleBinding Value.toText
    <*> readField fields "renames" standard.renames Value.toMapping
    <*> readField fields "ignored_names" standard.ignoredNames Value.toTexts

end Scaffold.Tree
