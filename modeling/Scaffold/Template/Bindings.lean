/-!
# Bindings

A binding gives a name a text.

* `Bindings.get?`: the text bound to a name.
* `isTruthy`: how a condition reads the text bound to its variable.
-/

namespace Scaffold.Template

/-- Names and the texts bound to them, in the order in which they are shown. -/
structure Bindings where
  entries : List (String × String) := []
  deriving DecidableEq, Repr

/-- The text bound to a name. -/
def Bindings.get? (b : Bindings) (name : String) : Option String :=
  b.entries.lookup name

/-- The words `true` and `false` are taken literally; any other text is true unless empty. -/
def isTruthy (value : String) : Bool :=
  if value = "true" then true
  else if value = "false" then false
  else value ≠ ""

end Scaffold.Template
