import Scaffold.Shell.Arithmetic
import Scaffold.Shell.Machine

/-!
# Tests

Statements about texts, numbers and files, written as lists of words.

* `holds`: a statement holds, or why that cannot be told.
-/

namespace Scaffold.Shell

/-! ## Simple statements -/

/-- The entry that a path leads to, if there is one. -/
def entryAt (fs : FileSystem) (path : String) : Option Entry :=
  match fs.find (.ofString path) with
  | .ok (_, e) => if path = "" then none else some e
  | .error _ => none

/-- The statements about one thing, by their signs. -/
def unaryTests : List (String × (FileSystem → String → Bool)) :=
  let present (fs : FileSystem) (operand : String) : Bool := (entryAt fs operand).isSome
  let isLink (fs : FileSystem) (operand : String) : Bool :=
    match fs.locate false (.ofString operand) with
    | .ok (.present _ (.link _)) => true
    | _ => false
  let never (_ : FileSystem) (_ : String) : Bool := false
  [("-n", fun _ operand => operand != ""), ("-z", fun _ operand => operand == ""),
    ("-e", present), ("-r", present), ("-w", present), ("-O", present), ("-G", present),
    ("-d", fun fs operand => entryAt fs operand = some .directory),
    ("-x", fun fs operand => entryAt fs operand = some .directory),
    ("-f", fun fs operand => match entryAt fs operand with
      | some (.file _) => true
      | _ => false),
    ("-s", fun fs operand => match entryAt fs operand with
      | some (.file content) => content.size != 0
      | some _ => true
      | none => false),
    ("-L", isLink), ("-h", isLink), ("-b", never), ("-c", never), ("-p", never), ("-S", never),
    ("-u", never), ("-g", never), ("-k", never), ("-t", never)]

/-- Why a statement is none. -/
inductive TestFault where
  /-- The statement ends at a word, but others follow, of which the first is given. -/
  | unexpected (last next : String)
  | illegalNumber (argument : String)
  | missingArgument (operator : String)
  | missingBracket
  deriving DecidableEq, Repr

/-- The wording of a fault of the shell. -/
def TestFault.message : TestFault → String
  | .unexpected last _ => last ++ ": unexpected operator"
  | .illegalNumber argument => "Illegal number: " ++ argument
  | .missingArgument operator => operator ++ ": argument expected"
  | .missingBracket => "closing paren expected"

/-- The comparisons of numbers. -/
def numberComparisons : List (String × (Int → Int → Bool)) :=
  [("-eq", (· == ·)), ("-ne", (· != ·)), ("-lt", (· < ·)), ("-le", (· ≤ ·)), ("-gt", (· > ·)),
    ("-ge", (· ≥ ·))]

/-- The comparisons of texts. -/
def textComparisons : List (String × (String → String → Bool)) :=
  [("=", (· == ·)), ("!=", (· != ·)), ("<", (· < ·)), (">", (· > ·))]

/-- The comparisons of files. No file is older than another here. -/
def fileComparisons : List (String × (FileSystem → String → String → Bool)) :=
  [("-nt", fun fs a b => (entryAt fs a).isSome && (entryAt fs b).isNone),
    ("-ot", fun fs a b => (entryAt fs a).isNone && (entryAt fs b).isSome),
    ("-ef", fun fs a b => (fs.sameEntry (.ofString a) (.ofString b)).toOption = some true)]

/-- The whole number that a text writes in digits, with blanks around it. It may have to fit into a
machine word. -/
def decimal? (limited : Bool) (s : String) : Option Int :=
  let cs := s.toList.dropWhile isNumberBlank
  let (sign, cs) : Int × List Char := match cs with
    | '-' :: cs => (-1, cs)
    | '+' :: cs => (1, cs)
    | cs => (1, cs)
  let digits := cs.takeWhile Char.isDigit
  let number := sign * numberOf 10 digits
  if digits = [] ∨ (cs.drop digits.length).any (!isNumberBlank ·) ∨
      (limited ∧ number ≠ wrap number) then none
  else some number

/-- What statements are about, and which ones there are. -/
structure Testing where
  files : FileSystem
  /-- The comparisons of texts that there are. -/
  texts : List (String × (String → String → Bool))
  /-- Numbers have to fit into a machine word. -/
  limited : Bool

/-- Statements tested by the shell. -/
def Testing.ofShell (files : FileSystem) : Testing :=
  { files, texts := textComparisons, limited := true }

/-- Statements tested by a program. -/
def Testing.ofProgram (files : FileSystem) : Testing :=
  { files, texts := ("==", (· == ·)) :: textComparisons, limited := false }

/-- What a comparison finds out; nothing if there is no such comparison. -/
def Testing.compare? (t : Testing) (left operator right : String) :
    Option (Except TestFault Bool) :=
  match t.texts.lookup operator, numberComparisons.lookup operator,
    fileComparisons.lookup operator with
  | some f, _, _ => some (.ok (f left right))
  | _, some f, _ =>
    some <| match decimal? t.limited left, decimal? t.limited right with
    | some l, some r => .ok (f l r)
    | none, _ => .error (.illegalNumber left)
    | _, none => .error (.illegalNumber right)
  | _, _, some f => some (.ok (f t.files left right))
  | none, none, none => none

/-- A text is the sign of a comparison. -/
def Testing.isComparison (t : Testing) (operator : String) : Bool :=
  (t.texts.lookup operator).isSome || (numberComparisons.lookup operator).isSome ||
    (fileComparisons.lookup operator).isSome

/-! ## Statements put together -/

/-- What is found out about a statement, its last word, and the words behind it. -/
abbrev TestResult := Except TestFault (Bool × String × List String)

/-- The finding of a statement joined to one before it. -/
def joinFindings (f : Bool → Bool → Bool) (a : Bool) (r : TestResult) : TestResult :=
  r.map fun x => (f a x.1, x.2)

mutual

/-- Statements one of which has to hold. The first argument of each of these readers bounds the
number of steps; the word before the others is given. -/
def testAny (t : Testing) : Nat → String → List String → TestResult
  | 0, before, words => .ok (false, before, words)
  | n + 1, before, words => do
    match ← testAll t n before words with
    | (a, _, "-o" :: rest) => joinFindings or a (testAny t n "-o" rest)
    | result => return result

/-- Statements all of which have to hold. -/
def testAll (t : Testing) : Nat → String → List String → TestResult
  | 0, before, words => .ok (false, before, words)
  | n + 1, before, words => do
    match ← testNot t n before words with
    | (a, _, "-a" :: rest) => joinFindings and a (testAll t n "-a" rest)
    | result => return result

/-- A statement that may be negated. -/
def testNot (t : Testing) : Nat → String → List String → TestResult
  | 0, before, words => .ok (false, before, words)
  | n + 1, before, words => do
    match words with
    | "!" :: a :: rest =>
      if t.isComparison a && rest.length = 1 then testOne t n before words
      else
        let (b, result) ← testNot t n "!" (a :: rest)
        return (!b, result)
    | words => testOne t n before words

/-- A single statement. -/
def testOne (t : Testing) : Nat → String → List String → TestResult
  | 0, before, words => .ok (false, before, words)
  | n + 1, before, words => do
    match words with
    | [] => return (false, before, [])
    | [a] => return (a != "", a, [])
    | a :: operator :: rest =>
      match rest, a, unaryTests.lookup a with
      | [], _, some test => return (test t.files operator, operator, [])
      | [], "(", none =>
        if operator = ")" then return (false, operator, []) else .error .missingBracket
      | [], _, none =>
        if t.isComparison operator then .error (.missingArgument operator)
        else return (a != "", a, [operator])
      | b :: more, a, unary =>
        match t.compare? a operator b, a, unary with
        | some finding, _, _ => return (← finding, b, more)
        | none, "(", _ =>
          match ← testAny t n "(" (operator :: b :: more) with
          | (b, _, ")" :: rest) => return (b, ")", rest)
          | _ => .error .missingBracket
        | none, _, some test => return (test t.files operator, operator, b :: more)
        | none, a, none => return (a != "", a, operator :: b :: more)

end

/-- A statement holds, or why that cannot be told. -/
def holds (t : Testing) (words : List String) : Except TestFault Bool := do
  match ← testAny t (4 * words.length + 4) "" words with
  | (b, _, []) => return b
  | (_, last, next :: _) => .error (.unexpected last next)

/-- The answer of a program that tests a statement. -/
def testAnswer (complain : TestFault → String) (t : Testing) (words : List String) : Answer :=
  match holds t words with
  | .ok true => {}
  | .ok false => { status := 1 }
  | .error fault => .failing (complain fault) 2

end Scaffold.Shell
