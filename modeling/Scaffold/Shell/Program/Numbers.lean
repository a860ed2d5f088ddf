import Scaffold.Shell.Program.Options
import Scaffold.Shell.Program.Regular
import Scaffold.Shell.Test
import Scaffold.Text.Utf8

/-!
# Programs that compute

* `sequenceAnswer`: the program that counts from a number to another one.
* `expressionAnswer`: the program that computes the value of an expression.
-/

namespace Scaffold.Shell

/-! ## Counting -/

/-- A decimal number: some digits, of which the last ones are a fraction. -/
structure Decimal where
  digits : Int
  places : Nat
  /-- The number of characters that write the whole part. -/
  width : Nat
  deriving DecidableEq, Repr

/-- The greatest power of ten that a decimal number is taken times. -/
def powerLimit : Nat := 400

/-- The power of ten that some characters behind a number write, with nothing after it. -/
def powerOf? : List Char → Option Int
  | [] => some 0
  | 'e' :: cs | 'E' :: cs =>
    let (sign, ds) : Int × List Char := match cs with
      | '-' :: ds => (-1, ds)
      | '+' :: ds => (1, ds)
      | ds => (1, ds)
    let power := numberOf 10 ds
    if ds = [] ∨ !ds.all Char.isDigit ∨ powerLimit < power then none else some (sign * power)
  | _ => none

/-- The decimal number that a text writes, perhaps with a power of ten. -/
def decimalOf? (s : String) : Option Decimal :=
  let (sign, length, cs) : Int × Nat × List Char := match s.toList.dropWhile isNumberBlank with
    | '-' :: cs => (-1, 1, cs)
    | '+' :: cs => (1, 0, cs)
    | cs => (1, 0, cs)
  let whole := cs.takeWhile Char.isDigit
  let (fraction, rest) := match cs.drop whole.length with
    | '.' :: more => (more.takeWhile Char.isDigit, more.dropWhile Char.isDigit)
    | rest => ([], rest)
  match whole ++ fraction, powerOf? rest with
  | [], _ | _, none => none
  | digits, some power =>
    let places := Int.ofNat fraction.length - power
    some {
      digits := sign * numberOf 10 digits * Int.ofNat (Nat.pow 10 (-places).toNat)
      places := places.toNat
      width := length + max 1 whole.length + power.toNat }

/-- The digits of a decimal number taken to some places. -/
def Decimal.scaled (d : Decimal) (places : Nat) : Int :=
  d.digits * Int.ofNat (Nat.pow 10 (places - d.places))

/-- A number of digits, the last of which are a fraction, filled up with zeros to a width. -/
def showDecimal (places width : Nat) (digits : Int) : String :=
  let cs := Nat.toDigits 10 digits.natAbs
  let cs := List.replicate (places + 1 - cs.length) '0' ++ cs
  let whole := cs.take (cs.length - places)
  let fraction := cs.drop whole.length
  let sign := if digits < 0 then ['-'] else []
  let fraction := if places = 0 then [] else '.' :: fraction
  let zeros := List.replicate (width - (sign.length + whole.length + fraction.length)) '0'
  String.ofList (sign ++ zeros ++ whole ++ fraction)

/-- The numbers from one to another in steps. -/
def countFrom (first step last : Int) : List Int :=
  if step = 0 then []
  else
    let count := if 0 < step then (last - first) / step else (first - last) / (-step)
    (List.range (count + 1).toNat).map fun i => first + step * Int.ofNat i

/-- The options of the program that counts. -/
def sequenceOptions : OptionTable where
  program := "seq"
  plain := ['w']
  valued := ['s', 'f']
  names := [("equal-width", 'w'), ("separator", 's'), ("format", 'f')]
  mixed := false

/-- The arguments of the program that counts, where a negative number is no option. -/
def markNumbers : List String → List String
  | [] => []
  | "--" :: more => "--" :: more
  | "-s" :: separator :: more => "-s" :: separator :: markNumbers more
  | "-f" :: format :: more => "-f" :: format :: markNumbers more
  | a :: more =>
    match a.toList with
    | '-' :: c :: _ => if c.isDigit || c == '.' then "--" :: a :: more else a :: markNumbers more
    | _ => a :: more

/-- The numbers that the program that counts is given: where it starts, its step and where it
ends. -/
def sequenceBounds (numbers : List Decimal) : Decimal × Decimal × Decimal :=
  let one : Decimal := ⟨1, 0, 1⟩
  match numbers with
  | [last] => (one, one, last)
  | [first, last] => (first, one, last)
  | [first, step, last] => (first, step, last)
  | _ => (one, one, one)

/-- What is wrong with a format for numbers, which has to hold a single directive for a number with
a fraction. -/
def formatComplaint? (format : String) : Option String :=
  let start := "format ‘" ++ format ++ "’ "
  match directives format.toList with
  | [] => some (start ++ "has no % directive")
  | [t] =>
    match t.conversion with
    | none => some (start ++ "ends in %")
    | some c =>
      if "efgEFG".toList.contains c then none
      else some (start ++ "has unknown %" ++ String.singleton c ++ " directive")
  | _ :: _ :: _ => some (start ++ "has too many % directives")
where
  /-- All directives in some characters. -/
  directives : List Char → List DirectiveText
    | [] => []
    | '%' :: '%' :: cs => directives cs
    | '%' :: cs => directiveText false cs :: directives cs
    | _ :: cs => directives cs

/-- A number shown by a format, in which backslashes have no meaning. -/
def showByFormat (format number : String) : String :=
  let cs := format.toList.flatMap fun c => if c == '\\' then [c, c] else [c]
  let dialect : Dialect := ⟨false, false, false, false⟩
  Text.Utf8.decodeLossy (formatOnce ⟨dialect, false⟩ [number] cs).bytes

/-- The numbers from one to another in steps, shown as options ask for it. -/
def showSequence (given : Given) (first step last : Decimal) : List String :=
  let places := max first.places step.places
  let scale := max places last.places
  let numbers := (countFrom (first.scaled scale) (step.scaled scale) (last.scaled scale)).map
    fun i => i.tdiv (Int.ofNat (Nat.pow 10 (scale - places)))
  let fraction := if places = 0 then 0 else places + 1
  let width := if given.has 'w' then max first.width last.width + fraction else 0
  numbers.map fun i =>
    let plain := showDecimal places width i
    (given.value? 'f').elim plain fun format => showByFormat format plain

/-- What is wrong with how numbers are to be shown: a complaint, and whether it is about the use of
options. -/
def showingComplaint? (given : Given) : Option (String × Bool) :=
  match given.value? 'f', (given.value? 'f').bind formatComplaint? with
  | some _, some complaint => some (complaint, false)
  | some _, none =>
    if given.has 'w' then
      some ("format string may not be specified when printing equal width strings", true)
    else none
  | none, _ => none

/-- The answer of the program that counts. -/
def sequenceAnswer (arguments : List String) : Answer :=
  answerTo sequenceOptions (markNumbers arguments) fun given =>
    let bad? := given.operands.find? fun a => (decimalOf? a).isNone
    match given.operands, bad?, showingComplaint? given with
    | [], _, _ => missingOperand "seq"
    | _ :: _ :: _ :: extra :: _, _, _ => extraOperand "seq" extra
    | _, some bad, _ => misuse "seq" ("invalid floating point argument: ‘" ++ bad ++ "’")
    | _, none, some (complaint, true) => misuse "seq" complaint
    | _, none, some (complaint, false) => .failing ("seq: " ++ complaint) 1
    | operands, none, none =>
      let (first, step, last) := sequenceBounds (operands.filterMap decimalOf?)
      let separator := (given.value? 's').getD "\n"
      if step.digits = 0 then
        misuse "seq" ("invalid Zero increment value: ‘" ++ operands.getD 1 "" ++ "’")
      else
        match showSequence given first step last with
        | [] => {}
        | shown => .saying (separator.intercalate shown ++ "\n")

/-! ## Expressions -/

/-- What is wrong with an expression written as arguments. -/
inductive ArgumentFault where
  | missingAfter (argument : String)
  | unexpected (argument : String)
  | notInteger
  | byZero
  | expectingBracket (last : String)
  /-- There is another argument in the place of a bracket. -/
  | noBracket (argument : String)
  /-- There is a closing bracket in the place of a value. -/
  | bracket
  /-- A pattern is no regular expression, for a reason. -/
  | pattern (reason : String)
  deriving DecidableEq, Repr

/-- The wording of a fault. -/
def ArgumentFault.message : ArgumentFault → String
  | .missingAfter argument => "syntax error: missing argument after ‘" ++ argument ++ "’"
  | .unexpected argument => "syntax error: unexpected argument ‘" ++ argument ++ "’"
  | .notInteger => "non-integer argument"
  | .byZero => "division by zero"
  | .expectingBracket last => "syntax error: expecting ')' after ‘" ++ last ++ "’"
  | .noBracket argument => "syntax error: expecting ')' instead of ‘" ++ argument ++ "’"
  | .bracket => "syntax error: unexpected ')'"
  | .pattern reason => reason

/-- The value of some arguments, the argument before the others, and these. -/
abbrev ArgumentResult := Except ArgumentFault (String × String × List String)

/-- The whole number that a value is. -/
def integer? (s : String) : Option Int :=
  let (sign, cs) : Int × List Char := match s.toList with
    | '-' :: cs => (-1, cs)
    | cs => (1, cs)
  if cs = [] ∨ !cs.all Char.isDigit then none else some (sign * numberOf 10 cs)

/-- A value counts as false: it is empty or zero. -/
def isNothing (s : String) : Bool :=
  let digits := if s.startsWith "-" then s.toList.drop 1 else s.toList
  s = "" || (digits ≠ [] && digits.all (· == '0'))

/-- A computation with two whole numbers. -/
def computeIntegers (f : Int → Int → Except ArgumentFault Int) (a b : String) :
    Except ArgumentFault String := do
  match integer? a, integer? b with
  | some a, some b => return toString (← f a b)
  | _, _ => .error .notInteger

/-- The text of a finding. -/
def findingText (b : Bool) : String :=
  if b then "1" else "0"

/-- The signs of operations by how tightly they bind. -/
def argumentOperators : List (List String) :=
  [["|"], ["&"], ["<", "<=", "=", "==", "!=", ">=", ">"], ["+", "-"], ["*", "/", "%"], [":"]]

/-- A comparison of two values, as numbers if both are. -/
def compareValues (operator a b : String) : Bool :=
  let order := match integer? a, integer? b with
    | some a, some b => compare a b
    | _, _ => compare a b
  match operator with
  | "<" => order == .lt
  | "<=" => order != .gt
  | ">" => order == .gt
  | ">=" => order != .lt
  | "!=" => order != .eq
  | _ => order == .eq

/-- What a pattern matches at the start of a text: its first group if it has one, and else the
number of characters. -/
def matchStart (text pattern : String) : Except ArgumentFault String :=
  match Regular.ofText? .basic pattern with
  | none => .error (.pattern (Regular.complaint .basic pattern))
  | some r =>
    match r.atStart? text.toList with
    | some found =>
      .ok (if r.hasGroups then String.ofList (found.group 1) else toString found.length)
    | none => .ok (if r.hasGroups then "" else "0")

/-- The value of an operation on two values. -/
def applyOperator (operator a b : String) : Except ArgumentFault String :=
  match operator with
  | "|" => .ok (if !isNothing a then a else if !isNothing b then b else "0")
  | "&" => .ok (if isNothing a || isNothing b then "0" else a)
  | "+" => computeIntegers (fun a b => .ok (a + b)) a b
  | "-" => computeIntegers (fun a b => .ok (a - b)) a b
  | "*" => computeIntegers (fun a b => .ok (a * b)) a b
  | "/" => computeIntegers (fun a b => if b = 0 then .error .byZero else .ok (a.tdiv b)) a b
  | "%" => computeIntegers (fun a b => if b = 0 then .error .byZero else .ok (a.tmod b)) a b
  | ":" => matchStart a b
  | operator => .ok (findingText (compareValues operator a b))

/-- Some characters of a text from a place on, which is counted from one. -/
def substring (text place length : String) : String :=
  match integer? place, integer? length with
  | some p, some l =>
    if p ≤ 0 ∨ l ≤ 0 then ""
    else String.ofList ((text.toList.drop (p - 1).toNat).take l.toNat)
  | _, _ => ""

/-- The place of the first of some characters in a text, counted from one; zero if there is none. -/
def placeOf (text set : String) : Nat :=
  match text.toList.findIdx? fun c => set.toList.contains c with
  | some i => i + 1
  | none => 0

mutual

/-- The value of operations of some level and of all that bind more tightly. The first argument of
each of these readers bounds the number of steps. -/
def readLevel : Nat → List (List String) → String → List String → ArgumentResult
  | 0, _, before, _ => .error (.missingAfter before)
  | n + 1, [], before, words => readValue n before words
  | n + 1, level :: tighter, before, words => do
    let (a, before, rest) ← readLevel n tighter before words
    readLevelFrom n level tighter a before rest

/-- What operations of some level make of a value. -/
def readLevelFrom : Nat → List String → List (List String) → String → String → List String →
    ArgumentResult
  | 0, _, _, _, before, _ => .error (.missingAfter before)
  | n + 1, level, tighter, a, before, words => do
    match words with
    | operator :: rest =>
      if level.contains operator then
        let (b, before, rest) ← readLevel n tighter operator rest
        readLevelFrom n level tighter (← applyOperator operator a b) before rest
      else return (a, before, words)
    | [] => return (a, before, [])

/-- A single value. -/
def readValue : Nat → String → List String → ArgumentResult
  | 0, before, _ | _, before, [] => .error (.missingAfter before)
  | n + 1, _, word :: rest => do
    match word, rest with
    | "(", rest =>
      match ← readLevel n argumentOperators "(" rest with
      | (a, _, ")" :: rest) => return (a, ")", rest)
      | (_, before, []) => .error (.expectingBracket before)
      | (_, _, extra :: _) => .error (.noBracket extra)
    | ")", _ => .error .bracket
    | "+", [] => .error (.missingAfter "+")
    | "+", quoted :: rest => return (quoted, quoted, rest)
    | "length", rest =>
      let (a, before, rest) ← readValue n word rest
      return (toString a.length, before, rest)
    | "match", rest =>
      let (a, before, rest) ← readValue n word rest
      let (b, before, rest) ← readValue n before rest
      return (← matchStart a b, before, rest)
    | "index", rest =>
      let (a, before, rest) ← readValue n word rest
      let (b, before, rest) ← readValue n before rest
      return (toString (placeOf a b), before, rest)
    | "substr", rest =>
      let (a, before, rest) ← readValue n word rest
      let (p, before, rest) ← readValue n before rest
      let (l, before, rest) ← readValue n before rest
      return (substring a p l, before, rest)
    | word, rest => return (word, word, rest)

end

/-- The answer of the program that computes. -/
def expressionAnswer (arguments : List String) : Answer :=
  let words := match arguments with
    | "--" :: more => more
    | arguments => arguments
  if words = [] then misuse "expr" "missing operand" 2
  else
    match readLevel (16 * words.length + 16) argumentOperators "" words with
    | .error fault => .failing ("expr: " ++ fault.message) 2
    | .ok (_, _, extra :: _) => .failing ("expr: " ++ (ArgumentFault.unexpected extra).message) 2
    | .ok (value, _, []) =>
      { output := bytesOf (value ++ "\n"), status := if isNothing value then 1 else 0 }

end Scaffold.Shell
