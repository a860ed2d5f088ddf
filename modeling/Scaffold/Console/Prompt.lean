import Scaffold.Console.Line
import Scaffold.Text.Blank
import Scaffold.Text.Case

/-!
# Prompts

A question printed to the console, and the line that answers it.

* `inputLines`: the lines of an input.
* `promptLine`: a question whose answer is a line.
* `promptYesNo`: a question whose answer is yes or no, asked until it is answered.
-/

namespace Scaffold.Console

/-! ## Input -/

/-- The lines of an input; what follows the last line end is a line if it is not empty. -/
def inputLines (s : String) : List String :=
  match (Text.splitOn '\n' s).reverse with
  | "" :: lines => lines.reverse
  | lines => lines.reverse

/-- What comes of a question: what was printed, the answer, if the input did not end before it,
and the lines that were not read. -/
structure Reply (α : Type) where
  printed : String
  answer : Option α
  rest : List String
  deriving DecidableEq, Repr

/-! ## Questions -/

/-- A question with what is offered for an answer. Only the question may hold markup. -/
def question (prompt offer : String) : Except MarkupError String := do
  return shown ((← Markup.plain prompt) ++ offer ++ ": ")

/-- Asks for a line. The default, which may be shown, stands for an empty one. -/
def promptLine (prompt default : String) (showDefault : Bool) (input : List String) :
    Except MarkupError (Reply String) := do
  let asked ← question prompt (if showDefault then " (" ++ default ++ ")" else "")
  match input with
  | [] => return ⟨asked, none, []⟩
  | line :: rest => return ⟨asked, some (if line = "" then default else line), rest⟩

/-- The answer that a line gives to a question of yes or no, if it gives one. -/
def yesNoAnswer? (default : Bool) (line : String) : Option Bool :=
  if line = "" then some default
  else
    match Text.toLower (Text.strip line) with
    | "y" => some true
    | "n" => some false
    | _ => none

/-- What is offered for an answer to a question of yes or no. -/
def yesNoOffer (default : Bool) : String :=
  " [y/n] " ++ if default then "(y)" else "(n)"

/-- What comes of a question that was printed, asked until a line answers yes or no. -/
def repeatYesNo (asked : String) (default : Bool) : List String → Reply Bool
  | [] => ⟨asked, none, []⟩
  | line :: rest =>
    match yesNoAnswer? default line with
    | some b => ⟨asked, some b, rest⟩
    | none =>
      let again := repeatYesNo asked default rest
      { again with printed := asked ++ printLiteral "Please enter Y or N" ++ again.printed }

/-- Asks for yes or no until a line gives one. -/
def promptYesNo (prompt : String) (default : Bool) (input : List String) :
    Except MarkupError (Reply Bool) := do
  return repeatYesNo (← question prompt (yesNoOffer default)) default input

end Scaffold.Console
