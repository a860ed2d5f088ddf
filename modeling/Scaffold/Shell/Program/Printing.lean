import Scaffold.Shell.Format
import Scaffold.Shell.Program.Options

/-!
# Programs that print

* `echoAnswer`, `shellEchoAnswer`: texts printed on a line, by the program and by the shell.
* `printfAnswer`, `shellPrintfAnswer`: formatted printing, by the program and by the shell.
* `sleepAnswer`: the program that waits.
-/

namespace Scaffold.Shell

/-! ## Texts -/

/-- The escapes of the command of the shell that prints texts. -/
def shellEcho : Dialect := ⟨true, true, false, false⟩

/-- The escapes of the program that prints texts. -/
def programEcho : Dialect := ⟨true, true, true, false⟩

/-- How the shell prints formats. -/
def shellPrinter : Printer := ⟨⟨false, false, false, false⟩, false⟩

/-- How the program prints formats. -/
def programPrinter : Printer := ⟨⟨false, true, true, true⟩, true⟩

/-- What a text with escapes prints, and a line end if nothing ends it before. -/
def echoEscaped (dialect : Dialect) (newline : Bool) (text : String) : Bytes :=
  let (bs, finish) := unescape dialect text.toList
  if newline && finish = .through then bs ++ [0x0A] else bs

/-- The command of the shell that prints texts. -/
def shellEchoAnswer (arguments : List String) : Answer :=
  match arguments with
  | "-n" :: words => { output := echoEscaped shellEcho false (" ".intercalate words) }
  | words => { output := echoEscaped shellEcho true (" ".intercalate words) }

/-- The letters that an argument of options of the program that prints texts holds. -/
def echoLetters? (argument : String) : Option (List Char) :=
  match argument.toList with
  | '-' :: c :: cs =>
    if (c :: cs).all fun c => c == 'n' || c == 'e' || c == 'E' then some (c :: cs) else none
  | _ => none

/-- The program that prints texts. The first two arguments say whether there is a line end and
whether escapes are read. -/
def echoAnswer (newline escapes : Bool) : List String → Answer
  | [] => { output := if newline then [0x0A] else [] }
  | word :: words =>
    match echoLetters? word with
    | some letters =>
      let escapes := (letters.reverse.find? (· != 'n')).elim escapes (· == 'e')
      echoAnswer (newline && !letters.contains 'n') escapes words
    | none =>
      let text := " ".intercalate (word :: words)
      if escapes then { output := echoEscaped programEcho newline text }
      else { output := bytesOf (if newline then text ++ "\n" else text) }

/-! ## Formats -/

/-- How complaints about printing are worded. -/
structure PrintWording where
  number : String → NumberFault → String
  fault : PrintFault → String
  faultStatus : Nat
  /-- A complaint about arguments that the format has no use for, the first of which is given. -/
  excess : Option (String → String)

/-- The answer of formatted printing. -/
def formatAnswer (p : Printer) (wording : PrintWording) (format : String)
    (arguments : List String) : Answer :=
  let printed := formatAll p format arguments
  let complaints := printed.faults.map fun x => wording.number x.1 x.2
  let excess := match wording.excess, printed.finish, printed.left with
    | some complaint, .through, first :: _ => [complaint first]
    | _, _, _ => []
  let (last, status) := match printed.finish with
    | .broken fault => ([wording.fault fault], wording.faultStatus)
    | _ => ([], if complaints = [] then 0 else 1)
  { output := printed.bytes
    errors := (complaints ++ excess ++ last).flatMap fun line => bytesOf (line ++ "\n")
    status }

/-- How the shell words complaints about printing; each of them starts with a text. -/
def shellPrintWording (start : String) : PrintWording where
  number argument fault :=
    start ++ argument ++ match fault with
    | .notNumber => ": expected numeric value"
    | .trailing => ": not completely converted"
    | .outOfRange => ": Numerical result out of range"
  fault
    | .badDirective text => start ++ String.ofList text ++ ": invalid directive"
    | .endsEarly _ => start ++ "missing format character"
    | .badEscape _ => start ++ "missing format character"
  faultStatus := 2
  excess := none

/-- How the program words complaints about printing. -/
def programPrintWording : PrintWording where
  number argument fault :=
    match fault with
    | .notNumber => "printf: ‘" ++ argument ++ "’: expected a numeric value"
    | .trailing => "printf: ‘" ++ argument ++ "’: value not completely converted"
    | .outOfRange => "printf: ‘" ++ argument ++ "’: Numerical result out of range"
  fault
    | .badDirective text | .endsEarly text =>
      "printf: " ++ String.ofList text ++ ": invalid conversion specification"
    | .badEscape .missingDigits => "printf: missing hexadecimal number in escape"
    | .badEscape (.invalidName letter code) =>
      let ds := Nat.toDigits 16 code
      let zeros := List.replicate ((if letter = 'u' then 4 else 8) - ds.length) '0'
      "printf: invalid universal character name \\" ++ String.ofList (letter :: zeros ++ ds)
  faultStatus := 1
  excess := some fun first =>
    "printf: warning: ignoring excess arguments, starting with ‘" ++ first ++ "’"

/-- Arguments without two dashes at their start. -/
def dropDashes : List String → List String
  | "--" :: arguments => arguments
  | arguments => arguments

/-- The command of the shell for formatted printing; `start` is how its complaints start. -/
def shellPrintfAnswer (start : String) (arguments : List String) : Answer :=
  match dropDashes arguments with
  | [] => .failing (start ++ "usage: printf format [arg ...]") 2
  | format :: arguments => formatAnswer shellPrinter (shellPrintWording start) format arguments

/-- The program for formatted printing. -/
def printfAnswer (arguments : List String) : Answer :=
  match dropDashes arguments with
  | [] => missingOperand "printf"
  | format :: arguments => formatAnswer programPrinter programPrintWording format arguments

/-! ## Time -/

/-- The seconds in the units of time. -/
def timeUnits : List (Char × Nat) :=
  [('s', 1), ('m', 60), ('h', 3600), ('d', 86400)]

/-- The time that a text writes, in millionths of a second. -/
def readTime? (s : String) : Option Nat :=
  let cs := s.toList
  let whole := cs.takeWhile Char.isDigit
  let rest := cs.drop whole.length
  let (fraction, rest) := match rest with
    | '.' :: more => (more.takeWhile Char.isDigit, more.dropWhile Char.isDigit)
    | rest => ([], rest)
  let unit := match rest with
    | [] => some 1
    | [u] => timeUnits.lookup u
    | _ => none
  match whole ++ fraction, unit with
  | [], _ | _, none => none
  | digits, some u => some (numberOf 10 digits * u * 1000000 / Nat.pow 10 fraction.length)

/-- The sum of the times that some texts write, or those that write none. -/
def readTimes (texts : List String) : Except (List String) Nat :=
  match texts.filter fun s => (readTime? s).isNone with
  | [] => .ok ((texts.filterMap readTime?).foldl (· + ·) 0)
  | bad => .error bad

/-- The answer of the program that waits. -/
def sleepAnswer (arguments : List String) : Answer :=
  answerTo { program := "sleep" } arguments fun given =>
    match given.operands, readTimes given.operands with
    | [], _ => missingOperand "sleep"
    | _, .ok t => { pause := t }
    | _, .error bad =>
      let complaint (s : String) : String := "invalid time interval ‘" ++ s ++ "’"
      misuse "sleep" ("\nsleep: ".intercalate (bad.map complaint))

end Scaffold.Shell
