import Scaffold.Shell.Pattern
import Scaffold.Shell.Escape

/-!
# Regular expressions

* `Regular`: a regular expression, and `Regular.ofText?` the one that a text writes.
* `Regular.matches`: all ways in which one matches the start of a text.
* `Regular.atStart?`, `Regular.first?`: the longest match at the start, and the first match at all.
-/

namespace Scaffold.Shell

/-! ## The type -/

/-- A regular expression. -/
inductive Regular where
  | nothing
  | char (c : Char)
  | anyChar
  | oneOf (negated : Bool) (ranges : List CharRange)
  | lineStart
  | lineEnd
  | sequence (a b : Regular)
  | either (a b : Regular)
  | repeated (least : Nat) (most : Option Nat) (a : Regular)
  | group (i : Nat) (a : Regular)
  /-- The text that a group has matched. -/
  | again (i : Nat)
  deriving Repr

/-- A regular expression has groups. -/
def Regular.hasGroups : Regular → Bool
  | .group _ _ => true
  | .sequence a b | .either a b => a.hasGroups || b.hasGroups
  | .repeated _ _ a => a.hasGroups
  | _ => false

/-! ## Matching -/

/-- A match of a start of a text: what was matched, what is left, and what groups have matched. -/
structure Match where
  done : List Char := []
  rest : List Char
  groups : List (Nat × List Char) := []
  deriving DecidableEq, Repr

namespace Match

/-- The number of characters that were matched. -/
def length (m : Match) : Nat :=
  m.done.length

/-- What a group has matched. -/
def group (m : Match) (i : Nat) : List Char :=
  if i = 0 then m.done else (m.groups.lookup i).getD []

/-- A match that goes on with some characters. -/
def advance (m : Match) (count : Nat) : Match :=
  { m with done := m.done ++ m.rest.take count, rest := m.rest.drop count }

end Match

/-- The ways in which a match goes on with one more character of a kind. -/
def matchOne (kind : Char → Bool) (m : Match) : List Match :=
  match m.rest with
  | c :: _ => if kind c then [m.advance 1] else []
  | [] => []

/-- The ways in which a match goes on by repeating a step, the longest ones first. The last argument
bounds how often. -/
def matchRepeated (step : Match → List Match) : Nat → Option Nat → Nat → Match → List Match
  | least, most, 0, m => if least = 0 ∨ most = some 0 then [m] else []
  | least, most, n + 1, m =>
    let more :=
      if most = some 0 then []
      else
        (step m).flatMap fun m' =>
          if m'.rest.length < m.rest.length ∨ 0 < least then
            matchRepeated step (least - 1) (most.map (· - 1)) n m'
          else []
    if least = 0 then more ++ [m] else more

/-- All ways in which a match goes on with a regular expression. -/
def Regular.matches (fold : Char → Char) : Regular → Match → List Match
  | .nothing, m => [m]
  | .char c, m => matchOne (fun c' => fold c == fold c') m
  | .anyChar, m => matchOne (fun _ => true) m
  | .oneOf negated ranges, m =>
    let isIn (c : Char) : Bool := ranges.any (CharRange.contains c)
    matchOne (fun c => (isIn c || isIn (fold c)) != negated) m
  | .lineStart, m => if m.done = [] then [m] else []
  | .lineEnd, m => if m.rest = [] then [m] else []
  | .sequence a b, m => (a.matches fold m).flatMap (b.matches fold)
  | .either a b, m => a.matches fold m ++ b.matches fold m
  | .repeated least most a, m =>
    matchRepeated (a.matches fold) least most (m.rest.length + least + 1) m
  | .group i a, m =>
    (a.matches fold m).map fun m' =>
      { m' with groups := (i, m'.done.drop m.done.length) :: m'.groups.filter (·.1 ≠ i) }
  | .again i, m =>
    let text := m.group i
    if text.isPrefixOf m.rest then [m.advance text.length] else []

/-- The longest of some matches; of equally long ones the first. -/
def longestMatch (ms : List Match) : Option Match :=
  ms.foldl (fun best m =>
    match best with
    | none => some m
    | some b => if b.length < m.length then some m else some b) none

/-- The longest match at the start of a text. -/
def Regular.atStart? (r : Regular) (cs : List Char) : Option Match :=
  longestMatch (r.matches id { rest := cs })

/-- The longest match at a place in a text, with the characters before it. -/
def Regular.here? (r : Regular) (fold : Char → Char) (before cs : List Char) :
    Option (List Char × Match) :=
  (longestMatch (r.matches fold { done := before, rest := cs })).map fun m =>
    (before, { m with done := m.done.drop before.length })

/-- The first match in a text from some place on, the longest of them that start there, with the
characters before it. -/
def Regular.first? (r : Regular) (fold : Char → Char) (before : List Char) :
    List Char → Option (List Char × Match)
  | [] => r.here? fold before []
  | c :: cs => r.here? fold before (c :: cs) <|> first? r fold (before ++ [c]) cs

/-! ## Reading -/

/-- Which signs have a meaning without a backslash. -/
inductive Flavour where
  | basic
  | extended
  deriving DecidableEq, Repr

/-- A piece of the text of a regular expression. -/
inductive RegularSign where
  | literal (c : Char)
  | anyChar
  | oneOf (negated : Bool) (ranges : List CharRange)
  | count (least : Nat) (most : Option Nat)
  | openGroup
  | closeGroup
  | bar
  | lineStart
  | lineEnd
  | again (i : Nat)
  deriving DecidableEq, Repr

/-- The numbers behind an opening brace, and what is left behind the closing signs. -/
def readCount (closing : List Char) (cs : List Char) :
    Option (RegularSign × List Char) :=
  let least := cs.takeWhile Char.isDigit
  let rest := cs.drop least.length
  let (most, rest) := match rest with
    | ',' :: more =>
      let ds := more.takeWhile Char.isDigit
      (if ds = [] then none else some (numberOf 10 ds), more.drop ds.length)
    | rest => (some (numberOf 10 least), rest)
  if closing.isPrefixOf rest then
    some (.count (numberOf 10 least) most, rest.drop closing.length)
  else none

/-- The signs that mean something else with or without a backslash, depending on the flavour. -/
def groupSign? (c : Char) : Option RegularSign :=
  match c with
  | '(' => some .openGroup
  | ')' => some .closeGroup
  | '|' => some .bar
  | '+' => some (.count 1 none)
  | '?' => some (.count 0 (some 1))
  | _ => none

/-- The characters that some letters behind a backslash stand for. -/
def letterClass? (c : Char) : Option RegularSign :=
  let wordRanges : List CharRange := [.ofClass "alnum", .between '_' '_']
  match c with
  | 'w' => some (.oneOf false wordRanges)
  | 'W' => some (.oneOf true wordRanges)
  | 's' => some (.oneOf false [.ofClass "space"])
  | 'S' => some (.oneOf true [.ofClass "space"])
  | _ => none

/-- The signs of a text. The first argument bounds how many there are, and the last one before is
given. -/
def regularSigns (flavour : Flavour) : Nat → Option RegularSign → List Char →
    Option (List RegularSign)
  | 0, _, _ | _, _, [] => some []
  | n + 1, before, c :: cs =>
    let atStart := before = none ∨ before = some .openGroup ∨ before = some .bar
    let go (sign : RegularSign) (rest : List Char) : Option (List RegularSign) :=
      (regularSigns flavour n (some sign) rest).map (sign :: ·)
    match c, cs with
    | '.', cs => go .anyChar cs
    | '[', cs =>
      match brackets? (cs.map (·, false)) with
      | some (.oneOf negated ranges, rest) => go (.oneOf negated ranges) (rest.map Prod.fst)
      | _ => none
    | '*', cs =>
      if atStart ∨ before = some .lineStart then go (.literal '*') cs else go (.count 0 none) cs
    | '^', cs => if atStart ∨ flavour = .extended then go .lineStart cs else go (.literal '^') cs
    | '$', cs =>
      let atEnd := cs = [] ∨ ['\\', ')'].isPrefixOf cs ∨ ['\\', '|'].isPrefixOf cs
      if atEnd ∨ flavour = .extended then go .lineEnd cs else go (.literal '$') cs
    | '\\', [] => none
    | '\\', c :: cs =>
      if c.isDigit && c != '0' then go (.again (c.toNat - '0'.toNat)) cs
      else
        match flavour, c, groupSign? c, letterClass? c with
        | .basic, '{', _, _ => (readCount ['\\', '}'] cs).bind fun x => go x.1 x.2
        | .basic, _, some sign, _ => go sign cs
        | _, _, _, some sign => go sign cs
        | _, _, _, none => go (.literal c) cs
    | c, cs =>
      match flavour, c, groupSign? c with
      | .extended, '{', _ =>
        match readCount ['}'] cs with
        | some x => go x.1 x.2
        | none => go (.literal '{') cs
      | .extended, _, some sign => go sign cs
      | _, _, _ => go (.literal c) cs

/-- A regular expression, the number of groups up to its end, and the signs behind it. -/
abbrev RegularResult := Option (Regular × Nat × List RegularSign)

mutual

/-- Expressions with bars between them. The first argument of each of these readers bounds the
number of steps, and the second is the number of groups so far. -/
def readEither : Nat → Nat → List RegularSign → RegularResult
  | 0, _, _ => none
  | n + 1, groups, signs => do
    let (a, groups, rest) ← readSequence n groups .nothing signs
    match rest with
    | .bar :: rest =>
      let (b, groups, rest) ← readEither n groups rest
      return (.either a b, groups, rest)
    | rest => return (a, groups, rest)

/-- Expressions one after the other. -/
def readSequence : Nat → Nat → Regular → List RegularSign → RegularResult
  | 0, _, _, _ => none
  | n + 1, groups, before, signs => do
    match signs with
    | [] | .bar :: _ | .closeGroup :: _ => return (before, groups, signs)
    | signs =>
      let (a, groups, rest) ← readPiece n groups signs
      let (a, rest) := countAll a rest
      readSequence n groups (.sequence before a) rest

/-- A single expression. -/
def readPiece : Nat → Nat → List RegularSign → RegularResult
  | 0, _, _ | _, _, [] => none
  | n + 1, groups, sign :: rest => do
    match sign with
    | .literal c => return (.char c, groups, rest)
    | .anyChar => return (.anyChar, groups, rest)
    | .oneOf negated ranges => return (.oneOf negated ranges, groups, rest)
    | .lineStart => return (.lineStart, groups, rest)
    | .lineEnd => return (.lineEnd, groups, rest)
    | .again i => return (.again i, groups, rest)
    | .openGroup =>
      match ← readEither n (groups + 1) rest with
      | (a, after, .closeGroup :: rest) => return (.group (groups + 1) a, after, rest)
      | _ => none
    | .count _ _ | .closeGroup | .bar => none

/-- An expression repeated as the counts behind it say. -/
def countAll (a : Regular) : List RegularSign → Regular × List RegularSign
  | .count least most :: rest => countAll (.repeated least most a) rest
  | rest => (a, rest)

end

/-- The regular expression that a text writes. -/
def Regular.ofText? (flavour : Flavour) (text : String) : Option Regular := do
  let signs ← regularSigns flavour (text.length + 1) none text.toList
  match ← readEither (8 * signs.length + 8) 0 signs with
  | (r, _, []) => return r
  | _ => none

/-- What is wrong with a text that writes no regular expression. -/
def Regular.complaint (flavour : Flavour) (text : String) : String :=
  match regularSigns flavour (text.length + 1) none text.toList with
  | none =>
    let slashes := text.toList.reverse.takeWhile (· == '\\')
    if slashes.length % 2 = 1 then "Trailing backslash"
    else "Unmatched [, [^, [:, [., or [="
  | some signs =>
    if signs.count .closeGroup < signs.count .openGroup then "Unmatched ( or \\("
    else "Unmatched ) or \\)"

end Scaffold.Shell
