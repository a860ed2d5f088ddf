import Scaffold.Shell.Machine

/-!
# Options of programs

The arguments of a program are options and operands in any order. An option is a letter behind a
dash or a name behind two, and may have a value; two dashes end the options.

* `OptionTable`: the options of a program.
* `readOptions`: the options and operands among some arguments.
* `misuse`, `missingOperand`: answers of programs that are used in a wrong way.
-/

namespace Scaffold.Shell

/-! ## Misuse -/

/-- The answer of a program that is used in a wrong way. -/
def misuse (name message : String) (status : Nat := 1) : Answer :=
  .failing (name ++ ": " ++ message ++ "\nTry '" ++ name ++ " --help' for more information.")
    status

/-- The answer of a program that wants an argument. -/
def missingOperand (name : String) : Answer :=
  misuse name "missing operand"

/-- The answer of a program that has an argument too many. -/
def extraOperand (name argument : String) : Answer :=
  misuse name ("extra operand ‘" ++ argument ++ "’")

/-! ## Options -/

/-- The options of a program. -/
structure OptionTable where
  program : String
  /-- The letters of options without values. -/
  plain : List Char := []
  /-- The letters of options with values. -/
  valued : List Char := []
  /-- The letters that names stand for. -/
  names : List (String × Char) := []
  /-- The exit code if the options are wrong. -/
  status : Nat := 1
  /-- Options may stand behind operands. -/
  mixed : Bool := true

/-- What some arguments hold. -/
structure Given where
  options : List (Char × String) := []
  operands : List String := []
  deriving DecidableEq, Repr

namespace Given

/-- One more operand. -/
def addOperand (g : Given) (operand : String) : Given :=
  { g with operands := operand :: g.operands }

/-- An option is given. -/
def has (g : Given) (letter : Char) : Bool :=
  g.options.any (·.1 == letter)

/-- One of some options is given. -/
def hasAny (g : Given) (letters : List Char) : Bool :=
  letters.any g.has

/-- The last value of an option. -/
def value? (g : Given) (letter : Char) : Option String :=
  (g.options.reverse.find? (·.1 == letter)).map Prod.snd

end Given

/-- The value of an option, which is the next argument, and the arguments behind it. -/
def nextValue (t : OptionTable) (complaint : String) :
    List String → Except Answer (String × List String)
  | value :: more => .ok (value, more)
  | [] => .error (misuse t.program complaint t.status)

/-- The options of the letters behind a dash, and the arguments behind them. -/
def readLetters (t : OptionTable) (arguments : List String) :
    List Char → Except Answer (List (Char × String) × List String)
  | [] => .ok ([], arguments)
  | c :: cs =>
    if t.valued.contains c then
      if cs = [] then do
        let complaint := "option requires an argument -- '" ++ String.singleton c ++ "'"
        let (value, rest) ← nextValue t complaint arguments
        return ([(c, value)], rest)
      else .ok ([(c, String.ofList cs)], arguments)
    else if t.plain.contains c then do
      let (more, rest) ← readLetters t arguments cs
      return ((c, "") :: more, rest)
    else
      .error (misuse t.program ("invalid option -- '" ++ String.singleton c ++ "'") t.status)

/-- The option of a name behind two dashes, and the arguments behind it. -/
def readName (t : OptionTable) (arguments : List String) (text : List Char) :
    Except Answer (List (Char × String) × List String) :=
  let name := String.ofList (text.takeWhile (· ≠ '='))
  match t.names.find? fun x => x.1.startsWith name, text.dropWhile (· ≠ '=') with
  | none, _ =>
    .error (misuse t.program ("unrecognized option '--" ++ name ++ "'") t.status)
  | some (_, letter), '=' :: value => .ok ([(letter, String.ofList value)], arguments)
  | some (name, letter), _ =>
    if t.valued.contains letter then do
      let (value, rest) ← nextValue t ("option '--" ++ name ++ "' requires an argument") arguments
      return ([(letter, value)], rest)
    else .ok ([(letter, "")], arguments)

/-- The options and operands among some arguments. The first argument bounds how many there
are. -/
def readOptionsIn (t : OptionTable) : Nat → List String → Except Answer Given
  | 0, operands => .ok { operands }
  | _, [] => .ok {}
  | n + 1, a :: more =>
    match a.toList with
    | ['-', '-'] => .ok { operands := more }
    | '-' :: '-' :: name => do
      let (options, rest) ← readName t more name
      let given ← readOptionsIn t n rest
      return { given with options := options ++ given.options }
    | '-' :: c :: cs => do
      let (options, rest) ← readLetters t more (c :: cs)
      let given ← readOptionsIn t n rest
      return { given with options := options ++ given.options }
    | _ =>
      if t.mixed then return (← readOptionsIn t n more).addOperand a
      else .ok { operands := a :: more }

/-- The options and operands among some arguments. -/
def readOptions (t : OptionTable) (arguments : List String) : Except Answer Given :=
  readOptionsIn t arguments.length arguments

/-- What a program answers to its options and operands. -/
def answerTo (t : OptionTable) (arguments : List String) (answer : Given → Answer) : Answer :=
  match readOptions t arguments with
  | .ok given => answer given
  | .error a => a

/-! ## Inputs -/

/-- What a program reads: pieces with their names, what it complains about, and whether it reads its
own input. -/
structure Inputs where
  pieces : List (String × Bytes) := []
  complaints : Bytes := []
  own : Bool := false

/-- All bytes of some pieces. -/
def Inputs.all (i : Inputs) : Bytes :=
  i.pieces.flatMap Prod.snd

/-- The reason why a file cannot be read. -/
def reasonOf : Failure → String
  | .system fault _ => fault.describe
  | f => f.message

/-- What some operands name; a dash names the own input, and so does no operand at all. The wording
of a complaint depends on a name and a reason. -/
def readInputs (wording : String → String → String) (fs : FileSystem) (input : Bytes)
    (operands : List String) : Inputs :=
  let operands := if operands = [] then ["-"] else operands
  operands.foldr (fun name rest =>
    if name = "-" then { rest with pieces := (name, input) :: rest.pieces, own := true }
    else
      match fs.read (.ofString name) with
      | .ok content => { rest with pieces := (name, content.data.toList) :: rest.pieces }
      | .error failure =>
        let complaint := bytesOf (wording name (reasonOf failure) ++ "\n")
        { rest with complaints := complaint ++ rest.complaints }) {}

/-- The usual wording of a complaint about a file. -/
def usualComplaint (program name reason : String) : String :=
  program ++ ": " ++ name ++ ": " ++ reason

/-- An answer with some output, from what was read. -/
def Inputs.answer (i : Inputs) (output : Bytes) (failure : Nat := 1) : Answer :=
  { output
    errors := i.complaints
    status := if i.complaints = [] then 0 else failure
    left := if i.own then some [] else none }

/-! ## Lines -/

/-- The lines of some bytes, without their line ends; what follows the last line end is a line if
it is not empty. -/
def linesOf (bs : Bytes) : List Bytes :=
  match (bs.splitOn 0x0A).reverse with
  | [] :: lines => lines.reverse
  | lines => lines.reverse

/-- Texts as lines. -/
def textLines (texts : List String) : Bytes :=
  texts.flatMap fun text => bytesOf (text ++ "\n")

/-- Lines with their line ends. -/
def joinLines (lines : List Bytes) : Bytes :=
  lines.flatMap (· ++ [0x0A])

end Scaffold.Shell
