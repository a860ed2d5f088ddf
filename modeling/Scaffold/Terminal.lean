import Scaffold.Console.Prompt
import Scaffold.Console.Table

/-!
# Terminals

What is shown of a text that is printed, and how a line of input becomes an answer, is up to the terminal
that the program talks to.

* `Terminal`: how a terminal prints and asks.
* `Terminal.wide`: the terminal that has room for every line. It is meant where no terminal is named.
* `Terminal.success`, `Terminal.warning`, `Terminal.summary`: messages of the program.
* `Terminal.askText`, `Terminal.confirm`: questions of the program.
-/

namespace Scaffold

open Console

/-! ## What a terminal does -/

/-- What the program talks to. A text with markup may be faulty. -/
class Terminal where
  /-- A text printed as it stands, and a line end. -/
  literal : String → String
  /-- A text with markup printed, and a line end. -/
  marked : String → Except MarkupError String
  /-- A message of an error printed, whose markup is shown as it stands. -/
  error : String → String
  /-- A table of two columns printed, with a heading and a title. -/
  table : String × String → String → List (String × String) → Except MarkupError String
  /-- A question with markup whose answer is a line of the input, with what stands for an empty one, and
  whether that is shown. -/
  askLine : String → String → Bool → List String → Except MarkupError (Reply String)
  /-- A question with markup whose answer is yes or no, with what stands for an empty line. -/
  askYesNo : String → Bool → List String → Except MarkupError (Reply Bool)

namespace Terminal

/-- A terminal that breaks no line, for it has room for each. -/
instance wide : Terminal where
  literal := printLiteral
  marked := printMarkup
  error := printError
  table := printTable
  askLine := promptLine
  askYesNo := promptYesNo

variable [Terminal]

/-! ## Messages -/

/-- A message that something went well. -/
def success (message : String) : Except MarkupError String :=
  marked ("[bold green]" ++ message ++ "[/bold green]")

/-- A message that something did not go well. -/
def warning (message : String) : Except MarkupError String :=
  marked ("[bold yellow]" ++ message ++ "[/bold yellow]")

/-- A row put behind others. A key that has a row already keeps its place and is given the new
value. -/
def putRow (rows : List (String × String)) (row : String × String) : List (String × String) :=
  if rows.any (·.1 == row.1) then rows.map fun r => if r.1 = row.1 then row else r
  else rows ++ [row]

/-- A table of keys and values, and an empty line. Each key has one row, with the value that it was given
last. -/
def summary (title : String) (rows : List (String × String)) : Except MarkupError String := do
  return (← table ("Item", "Value") title (rows.foldl putRow [])) ++ literal ""

/-! ## Questions -/

/-- A question as it is asked. -/
def question (prompt : String) : String :=
  "[bold]?[/bold] " ++ prompt

/-- An answer without the blanks at its ends. A blank one is replaced by the default. -/
def textAnswer (default : Option String) (answer : String) : String :=
  match Text.strip answer with
  | "" => default.getD ""
  | answer => answer

/-- Asks for a text. -/
def askText (prompt : String) (default : Option String) (input : List String) :
    Except MarkupError (Reply String) := do
  let reply ← askLine (question prompt) (default.getD "") default.isSome input
  return { reply with answer := reply.answer.map (textAnswer default) }

/-- Asks for yes or no. -/
def confirm (prompt : String) (default : Bool) (input : List String) :
    Except MarkupError (Reply Bool) :=
  askYesNo (question prompt) default input

end Terminal

end Scaffold
