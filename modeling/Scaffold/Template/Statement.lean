/-!
# Statements of the template language

A template reads as a list of statements whose order is that of the output.

* `Statement`: literal text, the value of a variable, or a choice between two lists of statements.
-/

namespace Scaffold.Template

/-- A statement of a template. -/
inductive Statement where
  /-- Literal text. -/
  | text (content : String)
  /-- The value bound to a name. -/
  | variable (name : String)
  /-- A choice by the value bound to a name. A template without an `else` clause has no second
  branch, which is not the same as an empty one. -/
  | conditional (name : String) (negated : Bool) (thenBranch : List Statement)
      (elseBranch : Option (List Statement))
  /-- Something that stands in the place of a statement and is none; the type of the thing is
  named. -/
  | foreign (typeName : String)
  deriving Repr, Inhabited

end Scaffold.Template
