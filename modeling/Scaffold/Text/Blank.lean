import Scaffold.Text.CharSet

/-!
# Blank characters

The white space of version 14 of the character database together with the four information
separators U+001C to U+001F.

* `isBlank`: membership in that table.
* `strip`: a text without the blanks at its two ends.
* `isBlank_of_isWhitespace`: every character that the core library calls white space is blank.
-/

namespace Scaffold.Text

/-! ## The class -/

/-- The blank characters. -/
def blanks : CharSet := .ofBounds
  [(0x9, 0xD), (0x1C, 0x20), (0x85, 0x85), (0xA0, 0xA0), (0x1680, 0x1680), (0x2000, 0x200A),
    (0x2028, 0x2029), (0x202F, 0x202F), (0x205F, 0x205F), (0x3000, 0x3000)]

/-- A blank character. -/
def isBlank (c : Char) : Bool :=
  blanks.contains c

/-- White space is blank. -/
theorem isBlank_of_isWhitespace {c : Char} (h : c.isWhitespace = true) : isBlank c = true := by
  simp only [Char.isWhitespace, Bool.or_eq_true, decide_eq_true_eq] at h
  rcases h with ((rfl | rfl) | rfl) | rfl <;> decide

/-! ## Stripping -/

/-- The characters from the first one that is not blank. -/
def stripLeft (cs : List Char) : List Char :=
  cs.dropWhile isBlank

/-- The characters up to the last one that is not blank. -/
def stripRight (cs : List Char) : List Char :=
  (cs.reverse.dropWhile isBlank).reverse

/-- A text without the blanks at its two ends. -/
def strip (s : String) : String :=
  String.ofList (stripRight (stripLeft s.toList))

end Scaffold.Text
