import Scaffold.Text.Blank
import Scaffold.Text.Capital
import Scaffold.Text.Case
import Scaffold.Text.Numeral

/-!
# Names of a project

A project has one name that the user gives, from which follow the name of its package and the name
of its module.

* `isPackageName`: a name that can be a package name as it stands.
* `toPackageName`: a package name for any text; small letters, with a hyphen for a separator.
* `toModuleName`: a module name for any text; its words joined, each with a capital first.
* `toPackageName_ne_empty`, `toModuleName_ne_empty`: neither is ever empty.
-/

namespace Scaffold.Project

open Text

/-! ## Package names -/

/-- The package name of a text that leaves nothing to name a package by. -/
def defaultPackageName : String := "velox-app"

/-- A character of a package name. -/
def isPackageChar (c : Char) : Bool :=
  !isCapital c && (isWordChar c || c == '-' || c == '_')

/-- A package name is not empty, does not start with a digit, has no capitals, and consists of
word characters, hyphens and low lines. -/
def isPackageName (name : String) : Bool :=
  match name.toList with
  | [] => false
  | c :: cs => !isDigit c && (c :: cs).all isPackageChar

/-- A character that stands for a separator between words. -/
def isSeparator (c : Char) : Bool :=
  c == ':' || c == ';' || c == ' ' || c == '~'

/-- A character that is left out of a package name. -/
def isDropped (c : Char) : Bool :=
  c == '.' || c == '\\' || c == '/'

/-- A character that a normalised package name does not start with. -/
def isLeadingJunk (c : Char) : Bool :=
  isNumeral c || c == '-'

/-- The characters of a text with separators made hyphens, dots and slashes left out, and leading
numerals and hyphens removed. -/
def packageChars (cs : List Char) : List Char :=
  (((cs.map fun c => if isSeparator c then '-' else c).filter fun c => !isDropped c).dropWhile
    isLeadingJunk)

/-- A package name for any text. -/
def toPackageName (name : String) : String :=
  match packageChars (toLower (strip name)).toList with
  | [] => defaultPackageName
  | cs => String.ofList cs

/-- The name of a package is not empty. -/
theorem toPackageName_ne_empty (name : String) : toPackageName name ≠ "" := by
  unfold toPackageName
  split
  · decide
  · rename_i cs hne
    intro h
    exact hne (by simpa using congrArg String.toList h)

/-! ## Module names -/

/-- The module name of a text without word characters, and the start of one that would begin with
a digit. -/
def defaultModuleName : String := "VeloxApp"

/-- The word characters of a text; one that starts a word is in upper case. -/
def joinWords (wordStart : Bool) : List Char → List Char
  | [] => []
  | c :: cs =>
    if isWordChar c then (if wordStart then upperChar c else [c]) ++ joinWords false cs
    else joinWords true cs

/-- A module name for any text. -/
def toModuleName (name : String) : String :=
  match joinWords true name.toList with
  | [] => defaultModuleName
  | c :: cs =>
    if isDigit c then defaultModuleName ++ String.ofList (c :: cs) else String.ofList (c :: cs)

/-- Nor is the name of a module. -/
theorem toModuleName_ne_empty (name : String) : toModuleName name ≠ "" := by
  unfold toModuleName
  split
  · decide
  · split <;> intro h <;> simpa using congrArg String.toList h

end Scaffold.Project
