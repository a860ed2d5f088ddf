import Scaffold.Shell.Program.Options
import Scaffold.Shell.Program.Regular
import Scaffold.Text.Utf8

/-!
# The program that searches

* `searchAnswer`: the lines that a regular expression matches.
-/

namespace Scaffold.Shell

/-! ## Searching -/

/-- The options of the program that looks for lines. -/
def searchOptions : OptionTable where
  program := "grep"
  plain := ['c', 'v', 'i', 'n', 'q', 'E', 'F', 'G', 'o', 'l', 'x', 'w', 's', 'h', 'H', 'L']
  valued := ['e', 'm']
  names := [("count", 'c'), ("invert-match", 'v'), ("ignore-case", 'i'), ("line-number", 'n'),
    ("quiet", 'q'), ("silent", 'q'), ("extended-regexp", 'E'), ("fixed-strings", 'F'),
    ("only-matching", 'o'), ("files-with-matches", 'l'), ("line-regexp", 'x'),
    ("word-regexp", 'w'), ("regexp", 'e'), ("max-count", 'm'), ("no-messages", 's'),
    ("no-filename", 'h'), ("with-filename", 'H'), ("files-without-match", 'L'), ("color", 'K'),
    ("colour", 'K')]
  status := 2

/-- All matches in a text, one behind the other. The first argument bounds how many there are. -/
def allMatches (r : Regular) (fold : Char → Char) :
    Nat → List Char → List Char → List (List Char)
  | 0, _, _ => []
  | n + 1, before, cs =>
    match r.first? fold before cs with
    | none => []
    | some (skipped, m) =>
      match m.done, m.rest with
      | [], [] => []
      | [], c :: rest => allMatches r fold n (skipped ++ [c]) rest
      | done, rest => done :: allMatches r fold n (skipped ++ done) rest

/-- The expression that matches a text and nothing else. -/
def Regular.ofLiteral (cs : List Char) : Regular :=
  cs.foldr (fun c r => .sequence (.char c) r) .nothing

/-- The expression that options and a pattern stand for; each line of the pattern is one. -/
def searchExpression? (given : Given) (pattern : String) : Option Regular := do
  let one (line : String) : Option Regular :=
    if given.has 'F' then some (.ofLiteral line.toList)
    else Regular.ofText? (if given.has 'E' then .extended else .basic) line
  let whole (r : Regular) : Regular :=
    if given.has 'x' then .sequence .lineStart (.sequence r .lineEnd) else r
  match ← (Text.splitOn '\n' pattern).mapM one with
  | [] => none
  | r :: rs => return whole (rs.foldl .either r)

/-- The answer of the program that looks for lines. -/
def searchAnswer (fs : FileSystem) (input : Bytes) (arguments : List String) : Answer :=
  answerTo searchOptions arguments fun given =>
    let patterns := (given.options.filter (·.1 == 'e')).map Prod.snd
    let (pattern, operands) := match patterns, given.operands with
      | [], p :: operands => (some p, operands)
      | [], [] => (none, [])
      | ps, operands => (some ("\n".intercalate ps), operands)
    match pattern, pattern.bind (searchExpression? given) with
    | none, _ =>
      .failing ("Usage: grep [OPTION]... PATTERNS [FILE]...\n" ++
        "Try 'grep --help' for more information.") 2
    | some pattern, none =>
      let flavour := if given.has 'E' then .extended else .basic
      .failing ("grep: " ++ Regular.complaint flavour pattern) 2
    | some _, some r =>
      let i := readInputs (usualComplaint "grep") fs input operands
      let fold (c : Char) : Char := if given.has 'i' then c.toLower else c
      let text (line : Bytes) : List Char := (Text.Utf8.decodeLossy line).toList
      let hits (bs : Bytes) : List (Bytes × Nat) :=
        let found := ((linesOf bs).zipIdx 1).filter fun x =>
          (r.first? fold [] (text x.1)).isSome != given.has 'v'
        match (given.value? 'm').bind String.toNat? with
        | some n => found.take n
        | none => found
      let named := (1 < operands.length && !given.has 'h') || given.has 'H'
      let start (name : String) (n : Nat) : Bytes :=
        bytesOf ((if named then name ++ ":" else "") ++
          (if given.has 'n' then toString n ++ ":" else ""))
      let shownOf (x : String × Bytes) : List Bytes :=
        let name := if x.1 = "-" then "(standard input)" else x.1
        let found := hits x.2
        if given.has 'q' then []
        else if given.has 'l' then if found = [] then [] else [bytesOf name]
        else if given.has 'L' then if found = [] then [bytesOf name] else []
        else if given.has 'c' then
          [bytesOf ((if named then name ++ ":" else "") ++ toString found.length)]
        else if given.has 'o' then
          found.flatMap fun y =>
            (allMatches r fold (y.1.length + 1) [] (text y.1)).map fun m =>
              start name y.2 ++ bytesOfChars m
        else found.map fun y => start name y.2 ++ y.1
      let any := i.pieces.any fun x => hits x.2 ≠ []
      let answer := i.answer (joinLines (i.pieces.flatMap shownOf))
      let any := if given.has 'L' then answer.output ≠ [] else any
      { answer with
        errors := if given.has 's' then [] else answer.errors
        status := if i.complaints ≠ [] ∧ !(any ∧ given.has 'q') then 2 else if any then 0 else 1 }

end Scaffold.Shell
