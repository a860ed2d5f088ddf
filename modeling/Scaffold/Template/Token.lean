import Scaffold.Text.Numeral

/-!
# Tokens of the template language

A template is text with directives between the brackets `{%` and `%}`. A `Token` is one piece of
it: a bracket, a `!`, a keyword, a name, a stretch of text, or a character that no directive may
hold.

* `Token.ofWord`: a word is a keyword or else the name of a variable.
* `Token.describe`: the text by which error messages name a token.
-/

namespace Scaffold.Template

/-! ## Names -/

/-- A character that a name may start with. -/
def isNameStart (c : Char) : Bool :=
  Text.isLetter c || c == '_'

/-- A character that a name may go on with. -/
def isNameChar (c : Char) : Bool :=
  Text.isWordChar c || c == '_'

/-- What a name may start with may stand in a name. -/
theorem isNameChar_of_isNameStart {c : Char} (h : isNameStart c = true) : isNameChar c = true := by
  simp only [isNameStart, isNameChar, Bool.or_eq_true] at h ⊢
  exact h.imp_left Text.isWordChar_of_isLetter

/-! ## Tokens -/

/-- What a token is. -/
inductive Token.Kind where
  | openBracket
  | closeBracket
  | bang
  | ifWord
  | elseWord
  | endifWord
  | variable
  | text
  | invalid
  deriving DecidableEq, Repr

/-- A piece of a template. The value is the name of a variable, the characters of a text or an
invalid character; the position is that of an invalid character, counted from one. -/
structure Token where
  kind : Token.Kind
  value : String := ""
  position : Int := 0
  deriving DecidableEq, Repr

namespace Token

/-- The opening bracket `{%`. -/
def openBracket : Token := { kind := .openBracket }

/-- The closing bracket `%}`. -/
def closeBracket : Token := { kind := .closeBracket }

/-- The negation sign of a condition. -/
def bang : Token := { kind := .bang }

/-- A stretch of literal text. -/
def text (content : String) : Token := { kind := .text, value := content }

/-- The name of a variable. -/
def ofName (name : String) : Token := { kind := .variable, value := name }

/-- A character that no directive may hold. -/
def invalid (c : Char) (position : Int) : Token :=
  { kind := .invalid, value := String.singleton c, position := position }

/-- The keyword that a word spells, if it spells one. -/
def Kind.ofKeyword? : String → Option Kind
  | "if" => some .ifWord
  | "else" => some .elseWord
  | "endif" => some .endifWord
  | _ => none

/-- The token of a word inside a directive. -/
def ofWord (word : String) : Token :=
  match Kind.ofKeyword? word with
  | some kind => { kind }
  | none => ofName word

/-- How error messages name a token. -/
def describe (t : Token) : String :=
  match t.kind with
  | .openBracket => "\x7b%"
  | .closeBracket => "%\x7d"
  | .bang => "!"
  | .ifWord => "if"
  | .elseWord => "else"
  | .endifWord => "endif"
  | .variable => t.value ++ " (variable)"
  | .text => "(text)"
  | .invalid => "invalid token " ++ t.value ++ " at " ++ toString t.position

end Token

end Scaffold.Template
