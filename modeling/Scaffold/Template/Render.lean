import Scaffold.Template.Evaluate
import Scaffold.Template.Parse

/-!
# Rendering a template

* `render`: the value of the statements of a template. The template is read as a whole before
  anything is evaluated, so a syntax error shows also in a branch that is not taken.
-/

namespace Scaffold.Template

/-- The text of a template under some bindings. -/
def render (template : String) (b : Bindings) : Except RenderError String :=
  match parse template with
  | .error e => .error (.syntaxError e)
  | .ok statements =>
    match evaluateAll b statements with
    | .error e => .error (.evaluationError e)
    | .ok text => .ok text

end Scaffold.Template
