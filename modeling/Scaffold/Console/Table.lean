import Scaffold.Console.Wrap

/-!
# Tables

A table of two columns under a heading, in a box, with a title centred above it. A column is as wide
as its widest cell was before tabs were filled up, so that a cell with tabs may have to be broken or
shortened.

* `printTable`: the table of some keys and values, as it is printed.
-/

namespace Scaffold.Console

/-! ## Cells -/

/-- Characters that end a line when the width of a cell is measured. -/
def endsLine (c : Char) : Bool :=
  c == '\n' || c == '\x1c' || c == '\x1d' || c == '\x1e' || c == '\u0085' || c == '\u2028' ||
    c == '\u2029'

/-- The columns that some cells take. -/
def columnWidth (cells : List String) : Nat :=
  let lines := cells.flatMap fun cell => (still cell).toList.splitOnP endsLine
  lines.foldl (fun w line => max w (Text.width line)) 0

/-- The lines of a cell of some columns. Its lines are broken only if that is allowed. -/
def cellLines (width : Nat) (breaking : Bool) (cell : String) : List (List Char) :=
  (Text.splitOn '\n' (still cell)).flatMap fun line =>
    let line := expandTabs line
    (if breaking then wrapLine width false line else [line]).map fun line =>
      padRight width (shorten width (trimEnd width line))

/-- The lines of a row of two cells between bars. -/
def rowLines (bar : Char) (keyWidth valueWidth : Nat) (row : String × String) :
    List (List Char) :=
  let keys := cellLines keyWidth false row.1
  let values := cellLines valueWidth true row.2
  (List.range (max keys.length values.length)).map fun i =>
    [bar, ' '] ++ padRight keyWidth (keys.getD i []) ++ [' ', bar, ' '] ++
      padRight valueWidth (values.getD i []) ++ [' ', bar]

/-- A rule across the table: its ends, its middle, and what it is drawn with. -/
def rule (left dash middle right : Char) (keyWidth valueWidth : Nat) : List Char :=
  left :: List.replicate (keyWidth + 2) dash ++
    middle :: List.replicate (valueWidth + 2) dash ++ [right]

/-! ## Titles -/

/-- The lines of a title over a table of some columns. -/
def titleLines (width : Nat) (title : String) : List (List Char) :=
  (Text.splitOn '\n' (still title)).flatMap fun line =>
    (wrapLine width true (expandTabs line)).map fun line => centre width (trimEnd width line)

/-! ## The table -/

/-- The lines of a table of keys and values with a heading, under a title if there is one. -/
def tableLines (heading : String × String) (title : Option String) (rows : List (String × String)) :
    List (List Char) :=
  let keyWidth := columnWidth ((heading :: rows).map Prod.fst)
  let valueWidth := columnWidth ((heading :: rows).map Prod.snd)
  let width := keyWidth + valueWidth + 7
  (title.toList.flatMap (titleLines width))
    ++ [rule '┏' '━' '┳' '┓' keyWidth valueWidth]
    ++ rowLines '┃' keyWidth valueWidth heading
    ++ [rule '┡' '━' '╇' '┩' keyWidth valueWidth]
    ++ rows.flatMap (rowLines '│' keyWidth valueWidth)
    ++ [rule '└' '─' '┴' '┘' keyWidth valueWidth]

/-- A table of keys and values with a heading, under a title. The title and the rows may hold markup. An
empty title is left out. -/
def printTable (heading : String × String) (title : String) (rows : List (String × String)) :
    Except MarkupError String := do
  let keys ← rows.mapM fun row => Markup.plain row.1
  let values ← rows.mapM fun row => Markup.plain row.2
  let title ← if title = "" then pure none else some <$> Markup.plain title
  let lines := tableLines heading title (keys.zip values)
  return String.join (lines.map fun line => String.ofList (line ++ ['\n']))

end Scaffold.Console
