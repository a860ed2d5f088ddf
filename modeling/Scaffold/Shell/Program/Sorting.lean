import Scaffold.Shell.Program.Showing

/-!
# Programs that sort

* `sortAnswer`: lines in order.
* `uniqueAnswer`: lines without those that repeat the one before.
-/

namespace Scaffold.Shell

/-! ## Sorting -/

/-- The options of the program that sorts. -/
def sortOptions : OptionTable where
  program := "sort"
  plain := ['n', 'r', 'u', 'f', 'b', 's', 'c', 'C', 'm']
  valued := ['k', 't', 'o']
  names := [("numeric-sort", 'n'), ("reverse", 'r'), ("unique", 'u'), ("ignore-case", 'f'),
    ("ignore-leading-blanks", 'b'), ("stable", 's'), ("key", 'k'), ("field-separator", 't'),
    ("output", 'o'), ("check", 'c'), ("merge", 'm')]
  status := 2

/-- A key to sort by: the first and the last field, and letters that say how. -/
structure SortKey where
  first : Nat := 1
  last : Option Nat := none
  letters : List Char := []
  deriving DecidableEq, Repr

/-- The key that a text writes. -/
def SortKey.ofText (s : String) : SortKey :=
  let cs := s.toList
  let first := cs.takeWhile Char.isDigit
  let rest := (cs.drop first.length).dropWhile fun c => c == '.' || c.isDigit
  let letters := rest.takeWhile Char.isAlpha
  match rest.drop letters.length with
  | ',' :: more =>
    let last := more.takeWhile Char.isDigit
    let after := (more.drop last.length).filter Char.isAlpha
    { first := numberOf 10 first, last := some (numberOf 10 last), letters := letters ++ after }
  | _ => { first := numberOf 10 first, letters }

/-- The fields of a line, each with the blanks before it if no character separates them. -/
def fieldsOf (separator : Option Char) (line : List Char) : List (List Char) :=
  match separator with
  | some c => line.splitOn c
  | none =>
    (line.foldl (fun (done : List (List Char)) c =>
      match done with
      | [] => [[c]]
      | field :: more =>
        let starts := (c == ' ' || c == '\t') && field.any (fun c => !(c == ' ' || c == '\t'))
        if starts then [c] :: field :: more else (field ++ [c]) :: more) []).reverse

/-- The part of a line that a key asks for. -/
def SortKey.part (k : SortKey) (separator : Option Char) (line : List Char) : List Char :=
  let fields := (fieldsOf separator line).drop (k.first - 1)
  let fields := match k.last with
    | some last => fields.take (last + 1 - k.first)
    | none => fields
  match separator with
  | some c => [c].intercalate fields
  | none => fields.flatten

/-- The number that a text starts with, in thousandths. -/
def leadingNumber (cs : List Char) : Int :=
  let cs := cs.dropWhile fun c => c == ' ' || c == '\t'
  let (sign, cs) : Int × List Char := match cs with
    | '-' :: cs => (-1, cs)
    | cs => (1, cs)
  let whole := cs.takeWhile Char.isDigit
  let fraction := match cs.drop whole.length with
    | '.' :: more => (more.takeWhile Char.isDigit).take 3
    | _ => []
  let fraction := fraction ++ List.replicate (3 - fraction.length) '0'
  sign * numberOf 10 (whole ++ fraction)

/-- The order of two texts by some letters. -/
def compareBy (letters : List Char) (a b : List Char) : Ordering :=
  let trim (cs : List Char) : List Char :=
    if letters.contains 'b' then cs.dropWhile fun c => c == ' ' || c == '\t' else cs
  let fold (cs : List Char) : List Char := if letters.contains 'f' then cs.map Char.toUpper else cs
  let order :=
    if letters.contains 'n' then compare (leadingNumber a) (leadingNumber b)
    else compare (String.ofList (fold (trim a))) (String.ofList (fold (trim b)))
  if letters.contains 'r' then order.swap else order

/-- The order of two lines by some keys. -/
def compareKeys (separator : Option Char) (letters : List Char) (a b : List Char) :
    List SortKey → Ordering
  | [] => .eq
  | k :: ks =>
    let own := if k.letters = [] then letters else k.letters
    match compareBy own (k.part separator a) (k.part separator b) with
    | .eq => compareKeys separator letters a b ks
    | order => order

/-- Lines of which each differs from the next. -/
def dropEqual (same : List Char → List Char → Bool) : List (List Char) → List (List Char)
  | [] => []
  | line :: lines =>
    match dropEqual same lines with
    | [] => [line]
    | next :: more => if same line next then line :: more else line :: next :: more

/-- An answer that is written to a file instead of being printed, if one is named. -/
def Answer.writtenTo (program : String) (status : Nat) (fs : FileSystem) (name : Option String)
    (a : Answer) : Answer :=
  match name with
  | none => a
  | some name =>
    match fs.write (.ofString name) ⟨a.output.toArray⟩ with
    | .ok fs => { a with output := [], files := some fs }
    | .error failure =>
      .failing (program ++ ": open failed: " ++ name ++ ": " ++ reasonOf failure) status

/-- The number of the first line that is out of order, and that line. -/
def firstDisorder (order : List Char → List Char → Bool) (n : Nat) :
    List (List Char) → Option (Nat × List Char)
  | a :: b :: lines =>
    if order a b then firstDisorder order (n + 1) (b :: lines) else some (n + 1, b)
  | _ => none

/-- What is wrong with the values of options of the program that sorts. -/
def sortComplaint? (given : Given) : Option String :=
  let badKey (x : Char × String) : Bool :=
    x.1 == 'k' && !(x.2.toList.head?.any Char.isDigit)
  match given.options.find? badKey, given.value? 't' with
  | some (_, key), _ =>
    some ("invalid number at field start: invalid count at start of ‘" ++ key ++ "’")
  | none, some separator =>
    if separator = "" then some "empty tab"
    else if 1 < separator.length ∧ separator ≠ "\\0" then
      some ("multi-character tab ‘" ++ separator ++ "’")
    else none
  | none, none => none

/-- The answer about lines that should be in order already. -/
def checkOrder (quiet : Bool) (name : String) (order : List Char → List Char → Bool)
    (lines : List (List Char)) : Answer :=
  match firstDisorder order 1 lines, quiet with
  | none, _ => {}
  | some _, true => { status := 1 }
  | some (n, line), false =>
    .failing ("sort: " ++ name ++ ":" ++ toString n ++ ": disorder: " ++ String.ofList line) 1

/-- The answer of the program that sorts, from what it has read. -/
def sortInputs (fs : FileSystem) (given : Given) (i : Inputs) : Answer :=
  let letters := ['n', 'r', 'f', 'b'].filter given.has
  let keys := (given.options.filter (·.1 == 'k')).map fun x => SortKey.ofText x.2
  let keys := if keys = [] then [{}] else keys
  let separator := (given.value? 't').bind fun s => s.toList.head?
  let unique := given.has 'u'
  let lines := (i.pieces.flatMap fun x => linesOf x.2).map fun line =>
    (Text.Utf8.decodeLossy line).toList
  let byKeys (a b : List Char) : Ordering := compareKeys separator letters a b keys
  let last (a b : List Char) : Ordering :=
    if given.has 's' || unique then .eq else compareBy (letters.filter (· == 'r')) a b
  let order (a b : List Char) : Bool := ((byKeys a b).then (last a b)) != .gt
  if given.hasAny ['c', 'C'] then
    let strict (a b : List Char) : Bool := if unique then byKeys a b == .lt else order a b
    checkOrder (given.has 'C') (given.operands.headD "-") strict lines
  else
    let sorted := lines.mergeSort order
    let kept := if unique then dropEqual (fun a b => byKeys a b == .eq) sorted else sorted
    (i.answer (joinLines (kept.map bytesOfChars))).writtenTo "sort" 2 fs (given.value? 'o')

/-- The answer of the program that sorts. -/
def sortAnswer (fs : FileSystem) (input : Bytes) (arguments : List String) : Answer :=
  answerTo sortOptions arguments fun given =>
    let complain (name reason : String) : String := "sort: cannot read: " ++ name ++ ": " ++ reason
    let i := readInputs complain fs input given.operands
    match sortComplaint? given with
    | some complaint => .failing ("sort: " ++ complaint) 2
    | none =>
      if i.complaints ≠ [] then { errors := i.complaints, status := 2 }
      else sortInputs fs given i

/-! ## Lines that follow each other -/

/-- Lines with the number of equal lines that follow each other. -/
def groupLines (same : Bytes → Bytes → Bool) : List Bytes → List (Bytes × Nat)
  | [] => []
  | line :: lines =>
    match groupLines same lines with
    | [] => [(line, 1)]
    | (next, n) :: more =>
      if same line next then (line, n + 1) :: more else (line, 1) :: (next, n) :: more

/-- The answer of the program that shows each of equal lines that follow each other once. -/
def uniqueAnswer (fs : FileSystem) (input : Bytes) (arguments : List String) : Answer :=
  let t : OptionTable := {
    program := "uniq"
    plain := ['c', 'd', 'u', 'i']
    names := [("count", 'c'), ("repeated", 'd'), ("unique", 'u'), ("ignore-case", 'i')] }
  answerTo t arguments fun given =>
    let i := readInputs (usualComplaint "uniq") fs input (given.operands.take 1)
    let fold (line : Bytes) : Bytes :=
      line.map fun b => if 0x41 ≤ b && b ≤ 0x5A then b + 0x20 else b
    let same (a b : Bytes) : Bool := if given.has 'i' then fold a == fold b else a == b
    let groups := (groupLines same (linesOf i.all)).filter fun x =>
      (!given.has 'd' || 1 < x.2) && (!given.has 'u' || x.2 = 1)
    let lines := groups.map fun x =>
      if given.has 'c' then bytesOf (padNumber 7 x.2 ++ " ") ++ x.1 else x.1
    if let some extra := given.operands[2]? then extraOperand "uniq" extra
    else if i.complaints ≠ [] then i.answer []
    else (i.answer (joinLines lines)).writtenTo "uniq" 1 fs given.operands[1]?

end Scaffold.Shell
