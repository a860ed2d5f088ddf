import Scaffold.Console.Markup
import Scaffold.Text.Replace
import Scaffold.Text.Width

/-!
# Printing

What reaches a console that has room for every line when a text is printed. Characters that would
move the cursor are left out, and a tab is filled up with blanks to the next column that is a multiple
of eight.

* `shown`: a text as it is shown.
* `printLiteral`, `printMarkup`: a text and a line end, without and with markup.
* `printError`: a message of an error.
-/

namespace Scaffold.Console

/-! ## Columns -/

/-- A character that moves the cursor: bell, backspace, vertical tab, form feed, carriage
return. -/
def movesCursor (c : Char) : Bool :=
  c == '\x07' || c == '\x08' || c == '\x0b' || c == '\x0c' || c == '\x0d'

/-- A text without the characters that move the cursor. -/
def still (s : String) : String :=
  String.ofList (s.toList.filter fun c => !movesCursor c)

/-- The distance between two columns at which a tab ends. -/
def tabWidth : Nat := 8

/-- A piece of a line before a tab, which starts at some column: the tab is at least one blank. -/
def fillTab (column : Nat) (piece : List Char) : List Char × Nat :=
  let piece := piece ++ [' ']
  let column := column + Text.width piece
  let missing := (tabWidth - column % tabWidth) % tabWidth
  (piece ++ List.replicate missing ' ', column + missing)

/-- Pieces of a line with tabs between them, from some column on, with the tabs filled up. -/
def joinTabs (column : Nat) : List (List Char) → List Char
  | [] => []
  | [piece] => piece
  | piece :: pieces =>
    let (filled, column) := fillTab column piece
    filled ++ joinTabs column pieces

/-- A line with its tabs filled up. -/
def expandTabs (line : String) : List Char :=
  joinTabs 0 ((Text.splitOn '\t' line).map String.toList)

/-- A text as it is shown. -/
def shown (s : String) : String :=
  "\n".intercalate ((Text.splitOn '\n' (still s)).map fun line => String.ofList (expandTabs line))

/-! ## Printing -/

/-- A text on a line. -/
def printLine (s : String) : String :=
  shown s ++ "\n"

/-- A text printed without regard to markup. -/
def printLiteral (s : String) : String :=
  printLine (String.ofList (withPictures s.toList))

/-- A text with markup printed. -/
def printMarkup (s : String) : Except MarkupError String := do
  return printLine (← Markup.plain s)

/-- A message of an error, whose markup is shown as it stands. -/
def printError (message : String) : String :=
  let pieces := Markup.pieces ("[bold red]x[/bold red] " ++ Markup.escape message)
  printLine (String.ofList (Markup.shownChars pieces))

end Scaffold.Console
