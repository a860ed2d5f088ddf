import Scaffold.Console.Line
import Scaffold.Text.Blank

/-!
# Breaking lines

A text that has to fit into some columns is broken between words. What is still too long is either
folded, so that a long word goes on in the next line, or shortened, with an ellipsis at its end.

* `wrapLine`: one line of a text, broken into lines.
* `shorten`: a line of at most some columns.
-/

namespace Scaffold.Console

/-! ## Words -/

/-- A word with the blanks behind it, and before it if it is the first. -/
structure Chunk where
  text : List Char
  deriving DecidableEq, Repr

/-- The number of columns of a chunk without the blanks behind it. -/
def Chunk.width (c : Chunk) : Nat :=
  Text.width (Text.stripRight c.text)

/-- The chunks of a line: blanks, a word, and the blanks behind it. What comes after the last word
makes no chunk of its own. The first argument is the chunk being read, the second says whether its
word has begun, the third whether its word has ended. -/
def chunksFrom (current : List Char) (begun ended : Bool) : List Char → List Chunk
  | [] => if begun then [⟨current⟩] else []
  | c :: cs =>
    if Text.isBlank c then chunksFrom (current ++ [c]) begun begun cs
    else if ended then ⟨current⟩ :: chunksFrom [c] true false cs
    else chunksFrom (current ++ [c]) true false cs

/-! ## Filling lines -/

/-- Lines made by putting chunks one after the other. The line being filled comes first, with the
columns that it takes; a chunk that does not fit goes on the next line. One that fits on no line is
folded, or else stays whole. -/
def fill (width : Nat) (folding : Bool) (line : List Char) (used : Nat) :
    List Chunk → List (List Char)
  | [] => [line]
  | c :: cs =>
    let before := if line = [] then [] else [line]
    if used + c.width ≤ width then
      fill width folding (line ++ c.text) (used + Text.width c.text) cs
    else if c.width ≤ width ∨ folding = false then
      before ++ fill width folding c.text (Text.width c.text) cs
    else
      let pieces := Text.chop width c.text
      let last := pieces.getLast?.getD []
      before ++ pieces.dropLast ++ fill width folding last (Text.width last) cs

/-- The lines of one line of a text. -/
def wrapLine (width : Nat) (folding : Bool) (line : List Char) : List (List Char) :=
  match chunksFrom [] false false line with
  | [] => [line]
  | chunks => fill width folding [] 0 chunks

/-- A line without the blanks at its end that are beyond some number of characters. -/
def trimEnd (size : Nat) (line : List Char) : List Char :=
  let blanks := line.length - (Text.stripRight line).length
  line.take (line.length - min blanks (line.length - size))

/-! ## Fitting lines -/

/-- A line of at most some columns; what is too long ends in an ellipsis. -/
def shorten (width : Nat) (line : List Char) : List Char :=
  if Text.width line ≤ width then line else Text.crop (width - 1) line ++ ['…']

/-- A line filled up with blanks. -/
def padRight (width : Nat) (line : List Char) : List Char :=
  line ++ List.replicate (width - Text.width line) ' '

/-- A line put in the middle of some columns; of an odd number of spare ones the last goes to the
right. -/
def centre (width : Nat) (line : List Char) : List Char :=
  let line := Text.stripRight line
  let line := if Text.width line ≤ width then line else Text.crop width line
  let left := (width - Text.width line) / 2
  padRight width (List.replicate left ' ' ++ line)

end Scaffold.Console
