/-!
# Patterns

A pattern stands for a set of texts. In it `*` stands for any text, `?` for any character, and
characters in square brackets for one of them; a character that is marked stands for itself.

* `Pattern.ofMarked`: the pattern that some characters write.
* `Pattern.accepts`: a text is one of those that a pattern stands for.
* `trimStart`, `trimEnd`: a text without a start or an end that a pattern stands for.
-/

namespace Scaffold.Shell

/-! ## The type -/

/-- Characters, each of which may be marked as one that stands for itself. -/
abbrev Marked := List (Char × Bool)

/-- Some characters. -/
inductive CharRange where
  | between (first last : Char)
  /-- The characters of a class with a name. -/
  | ofClass (name : String)
  deriving DecidableEq, Repr

/-- A piece of a pattern. -/
inductive PatternItem where
  | literal (c : Char)
  | anyChar
  | anyText
  | oneOf (negated : Bool) (ranges : List CharRange)
  deriving DecidableEq, Repr

/-- A pattern. -/
abbrev Pattern := List PatternItem

/-! ## Characters -/

/-- The classes of characters by name. -/
def charClasses : List (String × (Char → Bool)) :=
  [("alpha", Char.isAlpha), ("digit", Char.isDigit), ("alnum", Char.isAlphanum),
    ("upper", Char.isUpper), ("lower", Char.isLower),
    ("space", fun c => c == ' ' || ('\t' ≤ c && c ≤ '\r')),
    ("blank", fun c => c == ' ' || c == '\t'),
    ("punct", fun c => '!' ≤ c && c ≤ '~' && !c.isAlphanum),
    ("print", fun c => ' ' ≤ c && c ≤ '~'), ("graph", fun c => '!' ≤ c && c ≤ '~'),
    ("cntrl", fun c => c < ' ' || c == '\x7f'),
    ("xdigit", fun c => c.isDigit || ('a' ≤ c && c ≤ 'f') || ('A' ≤ c && c ≤ 'F'))]

/-- A character is one of a range. -/
def CharRange.contains (c : Char) : CharRange → Bool
  | .between first last => first ≤ c && c ≤ last
  | .ofClass name => ((charClasses.lookup name).map (· c)).getD false

/-! ## Reading -/

/-- The name of a class behind its opening signs, and what is left behind the closing ones. -/
def className? (cs : Marked) : Option (String × Marked) :=
  let name := cs.takeWhile fun x => x.1.isAlpha
  match cs.drop name.length with
  | (':', _) :: (']', _) :: rest => some (String.ofList (name.map Prod.fst), rest)
  | _ => none

/-- The ranges between square brackets, the first of which has been read, and what is left. The
first argument bounds how many there are. -/
def ranges? : Nat → Marked → Option (List CharRange × Marked)
  | 0, _ | _, [] => none
  | _ + 1, (']', false) :: rest => some ([], rest)
  | n + 1, (first, marked) :: rest =>
    match first, marked, rest with
    | '[', false, (':', false) :: more =>
      match className? more with
      | some (name, rest) => (ranges? n rest).map fun x => (.ofClass name :: x.1, x.2)
      | none => (ranges? n rest).map fun x => (.between '[' '[' :: x.1, x.2)
    | first, _, ('-', false) :: (last, marked) :: more =>
      if last = ']' ∧ marked = false then
        some ([.between first first, .between '-' '-'], more)
      else (ranges? n more).map fun x => (.between first last :: x.1, x.2)
    | first, _, rest => (ranges? n rest).map fun x => (.between first first :: x.1, x.2)

/-- What is between square brackets, the first of which has been read, and what is left. A closing
bracket at the start is one of the characters. -/
def brackets? (cs : Marked) : Option (PatternItem × Marked) :=
  let (negated, cs) := match cs with
    | ('!', false) :: rest | ('^', false) :: rest => (true, rest)
    | cs => (false, cs)
  let cs := match cs with
    | (']', false) :: rest => (']', true) :: rest
    | cs => cs
  (ranges? (cs.length + 1) cs).map fun x => (.oneOf negated x.1, x.2)

/-- The pattern that some characters write. The first argument bounds the number of pieces. -/
def readPattern : Nat → Marked → Pattern
  | 0, _ | _, [] => []
  | n + 1, ('*', false) :: rest => .anyText :: readPattern n rest
  | n + 1, ('?', false) :: rest => .anyChar :: readPattern n rest
  | n + 1, ('[', false) :: rest =>
    match brackets? rest with
    | some (item, rest) => item :: readPattern n rest
    | none => .literal '[' :: readPattern n rest
  | n + 1, (c, _) :: rest => .literal c :: readPattern n rest

/-- The pattern that some characters write. -/
def Pattern.ofMarked (cs : Marked) : Pattern :=
  readPattern cs.length cs

/-- The text that some characters make up. -/
def markedText (cs : Marked) : String :=
  String.ofList (cs.map Prod.fst)

/-! ## Matching -/

/-- A text is one of those that a pattern stands for. -/
def Pattern.accepts : Pattern → List Char → Bool
  | [], cs => cs.isEmpty
  | .anyText :: items, [] => Pattern.accepts items []
  | .anyText :: items, c :: cs =>
    Pattern.accepts items (c :: cs) || Pattern.accepts (.anyText :: items) cs
  | _ :: _, [] => false
  | .literal c :: items, c' :: cs => c == c' && Pattern.accepts items cs
  | .anyChar :: items, _ :: cs => Pattern.accepts items cs
  | .oneOf negated ranges :: items, c :: cs =>
    (ranges.any (CharRange.contains c) != negated) && Pattern.accepts items cs
termination_by items cs => items.length + cs.length

/-- A text without the shortest or the longest start that a pattern stands for. -/
def trimStart (longest : Bool) (p : Pattern) (cs : List Char) : List Char :=
  let lengths := List.range (cs.length + 1)
  let lengths := if longest then lengths.reverse else lengths
  match lengths.find? fun k => p.accepts (cs.take k) with
  | some k => cs.drop k
  | none => cs

/-- A text without the shortest or the longest end that a pattern stands for. -/
def trimEnd (longest : Bool) (p : Pattern) (cs : List Char) : List Char :=
  let lengths := List.range (cs.length + 1)
  let lengths := if longest then lengths else lengths.reverse
  match lengths.find? fun k => p.accepts (cs.drop k) with
  | some k => cs.take k
  | none => cs

end Scaffold.Shell
