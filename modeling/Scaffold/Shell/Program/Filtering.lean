import Scaffold.Shell.Format
import Scaffold.Shell.Pattern
import Scaffold.Shell.Program.Options
import Scaffold.Text.Utf8

/-!
# Programs that pick columns and change characters

* `cutAnswer`: columns of lines.
* `translateAnswer`: bytes put in place of others.
* `copyInputAnswer`: the input shown and written to files.
-/

namespace Scaffold.Shell

/-! ## Columns -/

/-- A range of columns; there may be no last one. -/
structure ColumnRange where
  first : Nat
  last : Option Nat
  deriving DecidableEq, Repr

/-- The range that a text writes. -/
def columnRange? (s : String) : Option ColumnRange :=
  let number (cs : List Char) : Option Nat :=
    if cs ≠ [] ∧ cs.all Char.isDigit then some (numberOf 10 cs) else none
  match s.toList.splitOn '-' with
  | [cs] => (number cs).map fun n => ⟨n, some n⟩
  | [[], cs] => (number cs).map fun n => ⟨1, some n⟩
  | [cs, []] => (number cs).map fun n => ⟨n, none⟩
  | [cs, cs'] => do return ⟨← number cs, some (← number cs')⟩
  | _ => none

/-- The ranges of columns that a text writes, or what is wrong with it. -/
def columnRanges (ofBytes : Bool) (s : String) : Except String (List ColumnRange) :=
  let fromOne :=
    (if ofBytes then "byte/character positions" else "fields") ++ " are numbered from 1"
  let what := if ofBytes then "byte/character position" else "field value"
  if s = "" || s = "," then .error fromOne
  else if s = "-" then .error "invalid range with no endpoint: -"
  else
    match (Text.splitOn ',' s).mapM columnRange? with
    | none => .error ("invalid " ++ what ++ " ‘" ++ s ++ "’")
    | some ranges =>
      if ranges.any fun r => r.first = 0 then .error fromOne
      else if ranges.any fun r => r.last.any (· < r.first) then .error "invalid decreasing range"
      else .ok ranges

/-- A column is in one of some ranges. -/
def inColumns (ranges : List ColumnRange) (column : Nat) : Bool :=
  ranges.any fun r => r.first ≤ column && (r.last.all fun last => column ≤ last)

/-- The members of a list in some columns. -/
def selectColumns {α : Type} (keep : Nat → Bool) (members : List α) : List α :=
  (members.zipIdx 1).filterMap fun x => if keep x.2 then some x.1 else none

/-- The options of the program that shows columns. -/
def cutOptions : OptionTable where
  program := "cut"
  plain := ['s', 'n']
  valued := ['b', 'c', 'd', 'f', 'O']
  names := [("bytes", 'b'), ("characters", 'c'), ("delimiter", 'd'), ("fields", 'f'),
    ("only-delimited", 's'), ("output-delimiter", 'O'), ("complement", 'n')]

/-- The fields of a line in some columns; a line without a separator is shown as it is. -/
def cutFields (separator joiner : Bytes) (onlyFields : Bool) (keep : Nat → Bool) (line : Bytes) :
    List Bytes :=
  let pieces := match separator with
    | [b] => line.splitOn b
    | _ => [line]
  if pieces.length ≤ 1 then if onlyFields then [] else [line]
  else [joiner.intercalate (selectColumns keep pieces)]

/-- Whether columns are bytes, and which ones are asked for, or what is wrong with the options. -/
def askedColumns (given : Given) : Except String (Bool × List ColumnRange) :=
  let lists := given.options.filter fun x => ['b', 'c', 'f'].contains x.1
  if 1 < lists.length then .error "only one list may be specified"
  else if (given.value? 'd').any (1 < ·.utf8ByteSize) then
    .error "the delimiter must be a single character"
  else
    match lists with
    | [] => .error "you must specify a list of bytes, characters, or fields"
    | (letter, list) :: _ =>
      let ofBytes := letter != 'f'
      if ofBytes && given.has 'd' then
        .error "an input delimiter may be specified only when operating on fields"
      else if ofBytes && given.has 's' then
        .error "suppressing non-delimited lines makes sense\n\tonly when operating on fields"
      else (columnRanges ofBytes list).map (ofBytes, ·)

/-- The answer of the program that shows columns. -/
def cutAnswer (fs : FileSystem) (input : Bytes) (arguments : List String) : Answer :=
  answerTo cutOptions arguments fun given =>
    match askedColumns given with
    | .error complaint => misuse "cut" complaint
    | .ok (ofBytes, ranges) =>
      let i := readInputs (usualComplaint "cut") fs input given.operands
      let keep (column : Nat) : Bool := inColumns ranges column != given.has 'n'
      let separator := bytesOf ((given.value? 'd').getD "\t")
      let joiner := ((given.value? 'O').map bytesOf).getD separator
      let cut (line : Bytes) : List Bytes :=
        if ofBytes then [selectColumns keep line]
        else cutFields separator joiner (given.has 's') keep line
      i.answer (joinLines ((linesOf i.all).flatMap cut))

/-! ## Characters -/

/-- The bytes that a set of the program that translates bytes holds, in order; a range stands for
all from its first to its last. The first argument bounds the number of pieces. -/
def readSet : Nat → Bytes → Bytes
  | 0, _ | _, [] => []
  | n + 1, 0x5B :: 0x3A :: more =>
    let name := more.takeWhile (· ≠ 0x3A)
    match charClasses.lookup (Text.Utf8.decodeLossy name), more.drop name.length with
    | some kind, 0x3A :: 0x5D :: rest =>
      let all := (List.range 128).filter fun i => kind (Char.ofNat i)
      all.map UInt8.ofNat ++ readSet n rest
    | _, _ => [0x5B, 0x3A] ++ readSet n more
  | n + 1, first :: 0x2D :: last :: more =>
    let count := last.toNat + 1 - first.toNat
    (List.range count).map (fun i => UInt8.ofNat (first.toNat + i)) ++ readSet n more
  | n + 1, b :: more => b :: readSet n more

/-- The bytes that a text writes for the program that translates bytes. -/
def setBytes (s : String) : Bytes :=
  (unescape ⟨false, false, false, false⟩ s.toList).1

/-- The set that a text writes. -/
def setOf (s : String) : Bytes :=
  readSet (setBytes s).length (setBytes s)

/-- A range in some bytes that ends before it starts. -/
def backwardRange? : Bytes → Option (UInt8 × UInt8)
  | first :: 0x2D :: last :: more =>
    if last < first then some (first, last) else backwardRange? more
  | _ :: more => backwardRange? more
  | [] => none

/-- Bytes of which those in a set that follow an equal one are left out. -/
def squeezeBytes (set : Bytes) : Bytes → Bytes
  | [] => []
  | b :: bs =>
    match squeezeBytes set bs with
    | [] => [b]
    | next :: more => if b = next ∧ set.contains b then next :: more else b :: next :: more

/-- The options of the program that translates bytes. -/
def translateOptions : OptionTable where
  program := "tr"
  plain := ['c', 'C', 'd', 's', 't']
  names := [("complement", 'c'), ("delete", 'd'), ("squeeze-repeats", 's'), ("truncate-set1", 't')]
  mixed := false

/-- The byte that a byte of a set is translated to; the last byte of the other set counts for all
that lie further on. -/
def translateByte (set other : Bytes) (b : UInt8) : UInt8 :=
  match set.idxOf? b with
  | some i => (other[i]?).getD (other.getLastD b)
  | none => b

/-- What is wrong with the sets of the program that translates bytes. -/
def setComplaint? (given : Given) : Option String :=
  match given.operands.findSome? fun s => backwardRange? (setBytes s), given.operands with
  | some (first, last), _ =>
    some ("range-endpoints of '" ++ Text.Utf8.decodeLossy [first, 0x2D, last] ++
      "' are in reverse collating sequence order")
  | none, [_, ""] =>
    if given.hasAny ['d', 't'] then none
    else some "when not truncating set1, string2 must be non-empty"
  | none, _ => none

/-- The answer of the program that translates bytes, for sets that are fine. -/
def translate (given : Given) (input : Bytes) : Answer :=
  let complement := given.has 'c' || given.has 'C'
  let outside (set : Bytes) : Bytes :=
    if complement then ((List.range 256).map UInt8.ofNat).filter (!set.contains ·) else set
  let done (output : Bytes) : Answer := { output, left := some [] }
  match given.operands, given.has 'd', given.has 's' with
  | [], _, _ => missingOperand "tr"
  | [a], true, false => done (input.filter (!(outside (setOf a)).contains ·))
  | [a], false, true => done (squeezeBytes (outside (setOf a)) input)
  | [a], _, _ =>
    misuse "tr" ("missing operand after ‘" ++ a ++ "’\nTwo strings must be given when " ++
      (if given.has 'd' then "both deleting and squeezing repeats." else "translating."))
  | [a, b], true, true =>
    done (squeezeBytes (setOf b) (input.filter (!(outside (setOf a)).contains ·)))
  | [_, b], true, false =>
    misuse "tr" ("extra operand ‘" ++ b ++
      "’\nOnly one string may be given when deleting without squeezing repeats.")
  | [a, b], false, squeezes =>
    let set := outside (setOf a)
    let set := if given.has 't' then set.take (setOf b).length else set
    let translated := input.map (translateByte set (setOf b))
    done (if squeezes then squeezeBytes (setOf b) translated else translated)
  | _ :: _ :: extra :: _, _, _ => extraOperand "tr" extra

/-- The answer of the program that translates bytes. -/
def translateAnswer (input : Bytes) (arguments : List String) : Answer :=
  answerTo translateOptions arguments fun given =>
    match setComplaint? given with
    | some complaint => .failing ("tr: " ++ complaint) 1
    | none => translate given input

/-- The answer of the program that shows its input and writes it to files. -/
def copyInputAnswer (fs : FileSystem) (input : Bytes) (arguments : List String) : Answer :=
  let t : OptionTable := {
    program := "tee", plain := ['a', 'i'], names := [("append", 'a')] }
  answerTo t arguments fun given =>
    let write (a : Answer) (name : String) : Answer :=
      let fs := a.files.getD fs
      let old := match given.has 'a', fs.read (.ofString name) with
        | true, .ok content => content
        | _, _ => ⟨#[]⟩
      match fs.write (.ofString name) (old ++ ⟨input.toArray⟩) with
      | .ok fs => { a with files := some fs }
      | .error failure =>
        { a with
          errors := a.errors ++ bytesOf (usualComplaint "tee" name (reasonOf failure) ++ "\n")
          status := 1 }
    given.operands.foldl write { output := input, left := some [] }

end Scaffold.Shell
