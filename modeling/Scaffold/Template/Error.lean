import Scaffold.Template.Token

/-!
# Errors of the template language

* `SyntaxError`: why tokens are no template. Three of the four name the token at fault.
* `EvaluationError`: why a statement has no value.
* `SyntaxError.message`, `EvaluationError.message`: their wording.
-/

namespace Scaffold.Template

/-- How error messages name a token, or the place behind the last one. -/
def describe? : Option Token → String
  | none => "end of input"
  | some t => t.describe

/-- Why a list of tokens is not the token list of statements. -/
inductive SyntaxError where
  /-- An invalid character stands at a position. -/
  | invalidCharacter (value : String) (position : Int)
  /-- A token stands where a statement should start. -/
  | unexpected (token : Token)
  /-- After `if`, or `if` and `!`, something other than a variable was found. -/
  | missingCondition (found : Option Token)
  /-- The tokens end inside a conditional. -/
  | unclosed
  deriving DecidableEq, Repr

/-- Why a statement has no value. -/
inductive EvaluationError where
  /-- A name has no binding. -/
  | unbound (name : String)
  /-- A thing that is no statement was met; its type is named. -/
  | notAStatement (typeName : String)
  deriving DecidableEq, Repr

/-- The opening words of every complaint about a template. -/
def complaint : String := "Failed to parse template: "

/-- The wording of a syntax error. -/
def SyntaxError.message : SyntaxError → String
  | .invalidCharacter value position =>
    complaint ++ "invalid token " ++ value ++ " at " ++ toString position
  | .unexpected token => complaint ++ "unexpected token: " ++ token.describe
  | .missingCondition found => complaint ++ "expected variable after if, found: " ++ describe? found
  | .unclosed => complaint ++ "expected endif, found: " ++ describe? none

/-- The wording of an evaluation error. -/
def EvaluationError.message : EvaluationError → String
  | .unbound name => complaint ++ "Unrecognized variable: " ++ name
  | .notAStatement typeName => "Unknown statement type: " ++ typeName

/-- Why a template does not render. -/
inductive RenderError where
  | syntaxError (error : SyntaxError)
  | evaluationError (error : EvaluationError)
  deriving DecidableEq, Repr

/-- The wording of a rendering error. -/
def RenderError.message : RenderError → String
  | .syntaxError e => e.message
  | .evaluationError e => e.message

end Scaffold.Template
