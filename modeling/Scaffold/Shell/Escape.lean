/-!
# Backslash escapes

The programs that print texts read escapes in them, such as `\n` or `\101`. Which escapes there are
depends on the program.

* `Dialect`: the escapes that a program reads.
* `unescape`: the bytes of a text with escapes.
-/

namespace Scaffold.Shell

/-! ## Escapes -/

/-- Bytes that a program reads or prints. -/
abbrev Bytes := List UInt8

/-- The bytes of a text. -/
def bytesOf (s : String) : Bytes :=
  s.toUTF8.data.toList

/-- The bytes of characters. -/
def bytesOfChars (cs : List Char) : Bytes :=
  bytesOf (String.ofList cs)

/-- The escapes that a program reads. -/
structure Dialect where
  /-- An octal number may have a zero in front of its three digits. -/
  zeroLed : Bool
  /-- The letter `c` ends the text. -/
  stops : Bool
  /-- There are escapes for hexadecimal numbers and for quotes. -/
  extended : Bool
  /-- There are escapes for characters by their code points, and a hexadecimal number has to have
  digits. -/
  codePoints : Bool
  deriving DecidableEq, Repr

/-- What is wrong with an escape. -/
inductive EscapeFault where
  | missingDigits
  | invalidName (letter : Char) (code : Nat)
  deriving DecidableEq, Repr

/-- What an escape stands for. -/
inductive Escape where
  | bytes (bs : Bytes)
  | stop
  | faulty (fault : EscapeFault)
  deriving DecidableEq, Repr

/-- The digits that some characters start with, at most `n` of them. -/
def leadingDigits (isDigit : Char → Bool) (n : Nat) (cs : List Char) : List Char :=
  (cs.take n).takeWhile isDigit

/-- An octal digit. -/
def isOctal (c : Char) : Bool :=
  '0' ≤ c && c ≤ '7'

/-- A hexadecimal digit. -/
def isHex (c : Char) : Bool :=
  c.isDigit || ('a' ≤ c && c ≤ 'f') || ('A' ≤ c && c ≤ 'F')

/-- The value of a digit of any base up to sixteen. -/
def digitValue (c : Char) : Nat :=
  if c.isDigit then c.toNat - '0'.toNat
  else if 'a' ≤ c then c.toNat - 'a'.toNat + 10
  else c.toNat - 'A'.toNat + 10

/-- The number that digits write. -/
def numberOf (base : Nat) (ds : List Char) : Nat :=
  ds.foldl (fun n d => base * n + digitValue d) 0

/-- The escapes of a single letter. -/
def simpleEscapes : List (Char × UInt8) :=
  [('\\', 0x5C), ('a', 7), ('b', 8), ('e', 0x1B), ('f', 12), ('n', 10), ('r', 13), ('t', 9),
    ('v', 11)]

/-- The escapes of a single character that only some programs read. -/
def extendedEscapes : List (Char × UInt8) :=
  [('"', 0x22)]

/-- The code points that need no name: a character is written as it is. -/
def isPlainCode (code : Nat) : Bool :=
  code ≤ 0x9F && code ≠ 0x24 && code ≠ 0x40 && code ≠ 0x60

/-- The character of a code point of `n` digits behind a letter, and how many characters belong to
it. -/
def codePoint (letter : Char) (n : Nat) (cs : List Char) : Escape × Nat :=
  let ds := leadingDigits isHex n cs
  let code := numberOf 16 ds
  if ds.length < n then (.faulty .missingDigits, ds.length)
  else if isPlainCode code || (0xD800 ≤ code && code ≤ 0xDFFF) then
    (.faulty (.invalidName letter code), n)
  else (.bytes (bytesOfChars [Char.ofNat code]), n)

/-- The escape whose first character behind the backslash is `c`, and how many of the characters
`cs` that follow belong to it. -/
def escape? (d : Dialect) (c : Char) (cs : List Char) : Option (Escape × Nat) :=
  match simpleEscapes.lookup c with
  | some b => some (.bytes [b], 0)
  | none =>
    if c = 'c' ∧ d.stops then some (.stop, 0)
    else if c = '0' ∧ d.zeroLed then
      let ds := leadingDigits isOctal 3 cs
      some (.bytes [UInt8.ofNat (numberOf 8 ds)], ds.length)
    else if isOctal c then
      let ds := leadingDigits isOctal 2 cs
      some (.bytes [UInt8.ofNat (numberOf 8 (c :: ds))], ds.length)
    else if c = 'u' ∧ d.codePoints then some (codePoint c 4 cs)
    else if c = 'U' ∧ d.codePoints then some (codePoint c 8 cs)
    else if d.extended then
      match extendedEscapes.lookup c, c, leadingDigits isHex 2 cs with
      | some b, _, _ => some (.bytes [b], 0)
      | none, 'x', d :: ds =>
        some (.bytes [UInt8.ofNat (numberOf 16 (d :: ds))], ds.length + 1)
      | none, 'x', [] => if d.codePoints then some (.faulty .missingDigits, 0) else none
      | none, _, _ => none
    else none

/-! ## Texts -/

/-- What comes after the bytes of a text: nothing, or an escape that ends it. -/
inductive TextEnd where
  | through
  | stopped
  | broken (fault : EscapeFault)
  deriving DecidableEq, Repr

/-- The bytes of characters with escapes, and how they end. A backslash that starts no escape stands
for itself. -/
def unescape (d : Dialect) : List Char → Bytes × TextEnd
  | [] => ([], .through)
  | '\\' :: c :: cs =>
    match escape? d c cs with
    | some (.bytes bs, n) =>
      let (more, finish) := unescape d (cs.drop n)
      (bs ++ more, finish)
    | some (.stop, _) => ([], .stopped)
    | some (.faulty fault, _) => ([], .broken fault)
    | none =>
      let (more, finish) := unescape d (c :: cs)
      (0x5C :: more, finish)
  | c :: cs =>
    let (more, finish) := unescape d cs
    (bytesOfChars [c] ++ more, finish)
termination_by cs => cs.length
decreasing_by
  all_goals simp only [List.length_cons, List.length_drop]; omega

end Scaffold.Shell
