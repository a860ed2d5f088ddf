import Scaffold.Shell.Program.Options
import Scaffold.Text.Utf8

/-!
# Programs that show files

* `catAnswer`, `headAnswer`, `tailAnswer`: files, their starts and their ends.
* `reverseLinesAnswer`, `reverseAnswer`: lines, or the characters of lines, in the opposite order.
* `numberAnswer`: lines with numbers.
* `countAnswer`: the numbers of lines, words and bytes.
-/

namespace Scaffold.Shell

/-! ## Showing -/

/-- A number filled up with blanks on its left. -/
def padNumber (width n : Nat) : String :=
  let s := toString n
  String.ofList (List.replicate (width - s.length) ' ') ++ s

/-- The options of the program that shows files. -/
def catOptions : OptionTable where
  program := "cat"
  plain := ['n', 'u', 'E', 'b', 's', 'A', 'T', 'v', 'e', 't']
  names := [("number", 'n'), ("show-ends", 'E'), ("number-nonblank", 'b'),
    ("squeeze-blank", 's'), ("show-all", 'A'), ("show-tabs", 'T'), ("show-nonprinting", 'v')]

/-- A byte below 128 that is no line end as it is made visible, where tabs may stay. -/
def visibleByte (tabs : Bool) (b : UInt8) : Bytes :=
  if b = 0x09 ∧ !tabs then [b]
  else if b < 0x20 then [0x5E, b + 0x40]
  else if b = 0x7F then [0x5E, 0x3F]
  else [b]

/-- A byte as options of the program that shows files ask for it. -/
def shownByte (given : Given) (b : UInt8) : Bytes :=
  let ends := given.hasAny ['E', 'A', 'e']
  let tabs := given.hasAny ['T', 'A', 't']
  let others := given.hasAny ['v', 'A', 'e', 't']
  if b = 0x0A then if ends then [0x24, b] else [b]
  else if b = 0x09 ∧ tabs then [0x5E, 0x49]
  else if !others then [b]
  else if b < 0x80 then visibleByte tabs b
  else [0x4D, 0x2D] ++ visibleByte true (b - 0x80)

/-- A text that ends in a line end. -/
def endsLine (bs : Bytes) : Bool :=
  bs.getLast? = some 0x0A

/-- Lines with numbers before them, except for some that are passed over. -/
def numberLines (passed : Bytes → Bool) (separator : String) (n : Nat) : List Bytes → List Bytes
  | [] => []
  | line :: lines =>
    if passed line then line :: numberLines passed separator n lines
    else
      (bytesOf (padNumber 6 n ++ separator) ++ line) :: numberLines passed separator (n + 1) lines

/-- Lines without those that are empty and follow an empty one. -/
def squeezeLines : List Bytes → List Bytes
  | [] => []
  | [] :: [] :: lines => squeezeLines ([] :: lines)
  | line :: lines => line :: squeezeLines lines

/-- Changes the lines of some bytes; where there is no line end after the last line, there is none
afterwards. -/
def onLines (change : List Bytes → List Bytes) (bs : Bytes) : Bytes :=
  let changed := joinLines (change (linesOf bs))
  if bs ≠ [] ∧ !endsLine bs then changed.dropLast else changed

/-- What some files hold, one after the other. -/
def catAnswer (fs : FileSystem) (input : Bytes) (arguments : List String) : Answer :=
  answerTo catOptions arguments fun given =>
    let i := readInputs (usualComplaint "cat") fs input given.operands
    let squeezed := if given.has 's' then onLines squeezeLines i.all else i.all
    let shown := squeezed.flatMap (shownByte given)
    let isEmpty (line : Bytes) : Bool := line ++ [0x0A] = shownByte given 0x0A
    let numbered :=
      if given.has 'n' || given.has 'b' then
        onLines (numberLines (fun line => given.has 'b' && isEmpty line) "\t" 1) shown
      else shown
    i.answer numbered

/-- How many lines or bytes are shown: so many from the start or the end, all but so many, or all
from a number on. -/
structure Amount where
  count : Nat
  ofBytes : Bool
  /-- The amount was written with a minus sign or a plus sign. -/
  minus : Bool
  plus : Bool
  deriving DecidableEq, Repr

/-- The amount that a text writes. -/
def amount? (ofBytes : Bool) (s : String) : Option Amount :=
  let (minus, plus, cs) := match s.toList with
    | '-' :: cs => (true, false, cs)
    | '+' :: cs => (false, true, cs)
    | cs => (false, false, cs)
  if cs = [] ∨ !cs.all Char.isDigit then none
  else some ⟨numberOf 10 cs, ofBytes, minus, plus⟩

/-- An amount given as an option of digits, written as an option of its own; behind a plus sign
only if `plus` is set. -/
def spellAmount (plus : Bool) : List String → List String
  | a :: more =>
    match a.toList with
    | '-' :: c :: cs =>
      if (c :: cs).all Char.isDigit then "-n" :: String.ofList (c :: cs) :: more else a :: more
    | '+' :: c :: cs => if plus && (c :: cs).all Char.isDigit then "-n" :: a :: more else a :: more
    | _ => a :: more
  | [] => []

/-- The options of the programs that show starts and ends of files. -/
def endsOptions (program : String) : OptionTable where
  program
  plain := ['q', 'v']
  valued := ['n', 'c']
  names := [("lines", 'n'), ("bytes", 'c'), ("quiet", 'q'), ("silent", 'q'), ("verbose", 'v')]

/-- The amount that options ask for, or what is wrong with it. -/
def askedAmount (program : String) (given : Given) : Except Answer Amount :=
  let read (ofBytes : Bool) (unit s : String) : Except Answer Amount :=
    match amount? ofBytes s with
    | some a => .ok a
    | none => .error (.failing (program ++ ": invalid number of " ++ unit ++ ": ‘" ++ s ++ "’") 1)
  match given.value? 'c', given.value? 'n' with
  | some s, _ => read true "bytes" s
  | none, some s => read false "lines" s
  | none, none => .ok ⟨10, false, false, false⟩

/-- The start of a file. -/
def Amount.start (a : Amount) (bs : Bytes) : Bytes :=
  let shown (total : Nat) : Nat := if a.minus then total - a.count else a.count
  if a.ofBytes then bs.take (shown bs.length)
  else
    let lines := linesOf bs
    let kept := lines.take (shown lines.length)
    if kept.length = lines.length then bs else joinLines kept

/-- The end of a file. -/
def Amount.finish (a : Amount) (bs : Bytes) : Bytes :=
  let dropped (total : Nat) : Nat := if a.plus then a.count - 1 else total - a.count
  if a.ofBytes then bs.drop (dropped bs.length)
  else
    let lines := linesOf bs
    let kept := joinLines (lines.drop (dropped lines.length))
    if kept ≠ [] ∧ !endsLine bs then kept.dropLast else kept

/-- Pieces with their names above them. -/
def withHeadings : List (String × Bytes) → Bytes
  | [] => []
  | [(name, bs)] => bytesOf ("==> " ++ name ++ " <==\n") ++ bs
  | (name, bs) :: more =>
    bytesOf ("==> " ++ name ++ " <==\n") ++ bs ++ [0x0A] ++ withHeadings more

/-- The answer of a program that shows a part of each file. -/
def endsAnswer (program : String) (part : Amount → Bytes → Bytes) (fs : FileSystem)
    (input : Bytes) (arguments : List String) : Answer :=
  answerTo (endsOptions program) (spellAmount (program = "tail") arguments) fun given =>
    match askedAmount program given with
    | .error a => a
    | .ok amount =>
      let complain (name reason : String) : String :=
        if reason = Fault.isDirectory.describe then
          program ++ ": error reading '" ++ name ++ "': " ++ reason
        else program ++ ": cannot open '" ++ name ++ "' for reading: " ++ reason
      let i := readInputs complain fs input given.operands
      let shown := i.pieces.map fun x =>
        (if x.1 = "-" then "standard input" else x.1, part amount x.2)
      let headed := (1 < given.operands.length && !given.has 'q') || given.has 'v'
      i.answer (if headed then withHeadings shown else shown.flatMap Prod.snd)

/-- The answer of the program that shows starts of files. -/
def headAnswer : FileSystem → Bytes → List String → Answer :=
  endsAnswer "head" Amount.start

/-- The answer of the program that shows ends of files. -/
def tailAnswer : FileSystem → Bytes → List String → Answer :=
  endsAnswer "tail" Amount.finish

/-- The answer of the program that shows lines in the opposite order. -/
def reverseLinesAnswer (fs : FileSystem) (input : Bytes) (operands : List String) : Answer :=
  let complain (name reason : String) : String :=
    "tac: failed to open '" ++ name ++ "' for reading: " ++ reason
  let i := readInputs complain fs input operands
  let turn (bs : Bytes) : Bytes :=
    match (linesOf bs).reverse with
    | last :: lines => last ++ (if endsLine bs then [0x0A] else []) ++ joinLines lines
    | [] => []
  i.answer (i.pieces.flatMap fun x => turn x.2)

/-- The answer of the program that shows the characters of each line in the opposite order. -/
def reverseAnswer (fs : FileSystem) (input : Bytes) (operands : List String) : Answer :=
  let i := readInputs (fun name reason => "rev: cannot open " ++ name ++ ": " ++ reason) fs input
    operands
  let turn (line : Bytes) : Bytes := bytesOfChars (Text.Utf8.decodeLossy line).toList.reverse
  i.answer (onLines (List.map turn) i.all)

/-- The answer of the program that numbers lines. -/
def numberAnswer (fs : FileSystem) (input : Bytes) (arguments : List String) : Answer :=
  let t : OptionTable := { program := "nl", valued := ['b'] }
  answerTo t arguments fun given =>
    let i := readInputs (usualComplaint "nl") fs input given.operands
    let all := given.value? 'b' = some "a"
    let number (n : Nat) (lines : List Bytes) : List Bytes :=
      (numberLines (fun line => !all && line.isEmpty) "\t" n lines).map fun line =>
        if line.isEmpty then bytesOf "       " else line
    i.answer (joinLines (number 1 (linesOf i.all)))

/-! ## Counting -/

/-- The options of the program that counts. -/
def countOptions : OptionTable where
  program := "wc"
  plain := ['l', 'w', 'c', 'm', 'L']
  names := [("lines", 'l'), ("words", 'w'), ("bytes", 'c'), ("chars", 'm'),
    ("max-line-length", 'L')]

/-- A byte between words. -/
def isBlankByte (b : UInt8) : Bool :=
  b = 0x20 || (0x09 ≤ b && b ≤ 0x0D)

/-- The numbers of lines, words, characters and bytes, and the length of the longest line. -/
def counts (bs : Bytes) : List (Char × Nat) :=
  [('l', bs.count 0x0A), ('w', (bs.splitOnP isBlankByte).countP (!·.isEmpty)),
    ('m', (Text.Utf8.decodeLossy bs).length), ('c', bs.length),
    ('L', ((linesOf bs).map List.length).foldl max 0)]

/-- The counts that options ask for. -/
def askedCounts (given : Given) (bs : Bytes) : List Nat :=
  let asked (letter : Char) : Bool :=
    if given.options = [] then letter == 'l' || letter == 'w' || letter == 'c'
    else given.has letter
  ((counts bs).filter fun x => asked x.1).map Prod.snd

/-- The answer of the program that counts lines, words and bytes. -/
def countAnswer (fs : FileSystem) (input : Bytes) (arguments : List String) : Answer :=
  answerTo countOptions arguments fun given =>
    let i := readInputs (usualComplaint "wc") fs input given.operands
    let single := given.operands.length ≤ 1 && (askedCounts given []).length = 1
    let width :=
      if single then 1
      else if i.own then 7
      else (toString i.all.length).length
    let row (name : String) (numbers : List Nat) : Bytes :=
      let shown := " ".intercalate (numbers.map (padNumber width))
      bytesOf (shown ++ (if name = "" then "" else " " ++ name) ++ "\n")
    let rows := i.pieces.map fun x =>
      row (if given.operands = [] then "" else x.1) (askedCounts given x.2)
    let total :=
      if 1 < given.operands.length then [row "total" (askedCounts given i.all)] else []
    i.answer (rows ++ total).flatten

end Scaffold.Shell
