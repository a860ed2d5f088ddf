/-!
# Commands

A script is a command: programs with words for arguments, put together by sequences, pipes,
conditions, loops and definitions.

* `Parameter`: a parameter of the shell.
* `Word`, `Part`: a word of a script, and its parts.
* `Command`: a command.
-/

namespace Scaffold.Shell

/-! ## Parameters -/

/-- A parameter of the shell. -/
inductive Parameter where
  | variable (name : String)
  /-- The argument of a number; that of number zero is the name of the shell. -/
  | argument (i : Nat)
  /-- All arguments, which become one text in quotes if they are joined. -/
  | allArguments (joined : Bool)
  | argumentCount
  /-- The exit code of the last command. -/
  | status
  /-- The number of the process of the shell. -/
  | process
  /-- The number of the process that was last started in the background. -/
  | background
  /-- The letters of the options that are set. -/
  | options
  deriving DecidableEq, Repr

/-- What is done if a parameter has no value, or if it has one. -/
inductive Otherwise where
  /-- A word takes the place of a missing value. -/
  | fallback
  /-- A word becomes the value if there is none. -/
  | assign
  /-- A missing value is an error. -/
  | demand
  /-- A word takes the place of a value that is there. -/
  | alternative
  deriving DecidableEq, Repr

/-- What a redirection does with the file that is named after it. -/
inductive Redirecting where
  | read
  | readWrite
  | write
  /-- Writes even where files are to be kept. -/
  | replace
  | append
  /-- The name is the number of another stream. -/
  | duplicate
  /-- The name is the text itself; tabs at the start of its lines may be left out. -/
  | document (withoutTabs : Bool)
  deriving DecidableEq, Repr

/-- A redirection of a stream. -/
structure Redirection (Target : Type) where
  descriptor : Nat
  kind : Redirecting
  target : Target

/-! ## Words and commands -/

mutual

/-- A part of a word. What is quoted is never split and holds no pattern. -/
inductive Part where
  | text (cs : List Char) (quoted : Bool)
  | parameter (p : Parameter) (use : Use) (quoted : Bool)
  /-- What another script prints. -/
  | output (script : Command) (quoted : Bool)
  /-- The value of an expression. -/
  | number (expression : List Part) (quoted : Bool)

/-- What is made of the value of a parameter. -/
inductive Use where
  | value
  | length
  /-- Another word takes part; an empty value may count as none. -/
  | otherwise (rule : Otherwise) (emptyIsNone : Bool) (word : List Part)
  /-- The start or the end of the value is left out if a pattern matches it. -/
  | without (start longest : Bool) (pattern : List Part)
  /-- Nothing that makes sense. -/
  | bad

/-- A command of a script. The line is that on which the command starts. -/
inductive Command where
  /-- Nothing at all. -/
  | skip
  /-- A program or a command of the shell itself, with its arguments, behind assignments. -/
  | simple (line : Nat) (assignments : List (String × List Part)) (words : List (List Part))
      (redirections : List (Redirection (List Part)))
  | sequence (first second : Command)
  /-- The body is run in the background. -/
  | background (body : Command)
  /-- The second is run only if the first succeeds. -/
  | both (first second : Command)
  /-- The second is run only if the first fails. -/
  | either (first second : Command)
  /-- The second reads what the first prints. -/
  | pipe (first second : Command)
  | negate (body : Command)
  | redirected (line : Nat) (body : Command) (redirections : List (Redirection (List Part)))
  /-- The body is run in a shell of its own. -/
  | subshell (line : Nat) (body : Command) (redirections : List (Redirection (List Part)))
  | choose (test yes no : Command)
  /-- The body is run as long as the test succeeds, or as long as it fails. -/
  | loop (whileFailing : Bool) (test body : Command)
  /-- The body is run for every text of some words, or for every argument. -/
  | each (line : Nat) (name : String) (words : Option (List (List Part))) (body : Command)
  /-- The first body is run that a text has a pattern for. -/
  | select (line : Nat) (subject : List Part) (cases : List (List (List Part) × Command))
  | define (name : String) (body : Command)

end

/-- A word of a script. -/
abbrev Word := List Part

end Scaffold.Shell
