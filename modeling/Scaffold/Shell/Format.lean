import Scaffold.Shell.Escape

/-!
# Formatted printing

A format is a text with escapes and directives. A directive such as `%5d` shows the next argument;
the format is used again as long as arguments are left.

* `Directive`: a directive, with how wide and how precise the argument is shown.
* `readInteger`, `readReal`: the number that an argument writes.
* `formatAll`: what is printed for a format and arguments.
-/

namespace Scaffold.Shell

/-! ## Directives -/

/-- A size in a directive: it is written there, or the next argument says it. -/
inductive Size where
  | given (n : Nat)
  | next
  deriving DecidableEq, Repr

/-- How an argument is shown. -/
structure Directive where
  /-- The argument is put on the left of its field. -/
  left : Bool
  /-- Numbers are filled up with zeros. -/
  zeros : Bool
  /-- What stands before numbers that are not negative. -/
  sign : List Char
  /-- The base of a number is shown. -/
  marked : Bool
  /-- The fewest bytes that are shown. -/
  width : Nat
  /-- The most bytes of a text, or the fewest digits of a number. -/
  precision : Option Nat
  /-- The letter that says what the argument is. -/
  conversion : Char
  deriving DecidableEq, Repr

/-- The text of a directive up to its letter, with sizes that may be left to arguments. -/
structure DirectiveText where
  flags : List Char
  width : Size
  precision : Option Size
  /-- The letter, if there is one. -/
  conversion : Option Char
  /-- The number of characters before the letter. -/
  length : Nat
  deriving DecidableEq, Repr

/-- A character that may stand at the start of a directive. -/
def isFlag (c : Char) : Bool :=
  c == '-' || c == '0' || c == '+' || c == ' ' || c == '#'

/-- The size at the start of some characters, and how many of them belong to it. -/
def readSize : List Char → Size × Nat
  | '*' :: _ => (.next, 1)
  | cs =>
    let ds := cs.takeWhile Char.isDigit
    (.given (numberOf 10 ds), ds.length)

/-- The directive that some characters behind a percent sign start with. Letters that say how long a
number is are passed over if `lengths` is set. -/
def directiveText (lengths : Bool) (cs : List Char) : DirectiveText :=
  let flags := cs.takeWhile isFlag
  let (width, n) := readSize (cs.drop flags.length)
  let before := flags.length + n
  let (precision, before) := match cs.drop before with
    | '.' :: more =>
      let (precision, n) := readSize more
      (some precision, before + 1 + n)
    | _ => (none, before)
  let skipped :=
    if lengths then ((cs.drop before).takeWhile fun c => "hlLjzt".toList.contains c).length else 0
  { flags, width, precision
    conversion := (cs.drop (before + skipped)).head?
    length := before + skipped }

/-- Bytes in their field. -/
def Directive.pad (d : Directive) (bs : Bytes) : Bytes :=
  let blanks := List.replicate (d.width - bs.length) 0x20
  if d.left then bs ++ blanks else blanks ++ bs

/-- A text in its field. -/
def Directive.showBytes (d : Directive) (bs : Bytes) : Bytes :=
  d.pad (match d.precision with
    | some n => bs.take n
    | none => bs)

/-- The digits of a number, in small letters where they are letters. -/
def digitsIn (base : Nat) (n : Nat) : List Char :=
  Nat.toDigits base n

/-- Digits behind a sign, filled up with zeros between them if that is asked for. -/
def Directive.fill (d : Directive) (zeros : Bool) (sign digits : List Char) : Bytes :=
  let missing :=
    if zeros && d.zeros && !d.left then d.width - (sign.length + digits.length) else 0
  d.pad (bytesOfChars (sign ++ List.replicate missing '0' ++ digits))

/-- A whole number behind a sign in its field. -/
def Directive.showWhole (d : Directive) (sign : List Char) (base n : Nat) : Bytes :=
  let digits := if n = 0 ∧ d.precision = some 0 then [] else digitsIn base n
  let digits := List.replicate (d.precision.getD 0 - digits.length) '0' ++ digits
  let digits := if d.marked && base == 8 && digits.head? != some '0' then '0' :: digits else digits
  let sign := if d.marked && base == 16 && n != 0 then sign ++ ['0', 'x'] else sign
  d.fill d.precision.isNone sign digits

/-! ## Numbers -/

/-- What is wrong with an argument that should be a number. -/
inductive NumberFault where
  | notNumber
  | trailing
  | outOfRange
  deriving DecidableEq, Repr

/-- A blank that may stand before a number. -/
def isNumberBlank (c : Char) : Bool :=
  c == ' ' || ('\t' ≤ c && c ≤ '\r')

/-- The number without sign that some characters start with, and what comes after it: octal after a
zero, hexadecimal after `0x`, else decimal. -/
def readDigits : List Char → Option (Nat × List Char)
  | '0' :: x :: d :: cs =>
    if (x = 'x' ∨ x = 'X') ∧ isHex d then
      some (numberOf 16 ((d :: cs).takeWhile isHex), (d :: cs).dropWhile isHex)
    else some (numberOf 8 ((x :: d :: cs).takeWhile isOctal), (x :: d :: cs).dropWhile isOctal)
  | '0' :: cs => some (numberOf 8 (cs.takeWhile isOctal), cs.dropWhile isOctal)
  | c :: cs =>
    if c.isDigit then
      some (numberOf 10 ((c :: cs).takeWhile Char.isDigit), cs.dropWhile Char.isDigit)
    else none
  | [] => none

/-- The whole numbers that are taken; what is beyond them counts as the nearest of them. -/
structure NumberRange where
  least : Int
  most : Int
  deriving DecidableEq, Repr

/-- The number of values of a machine word: two to the power of sixty-four. -/
def wordSize : Int := 18446744073709551616

/-- The numbers of a machine word with a sign. -/
def NumberRange.signed : NumberRange := ⟨-(wordSize / 2), wordSize / 2 - 1⟩

/-- The numbers of a machine word without a sign. A minus sign wraps them around, and what is too
small with one counts as the largest of them. -/
def NumberRange.unsigned : NumberRange := ⟨1 - wordSize, wordSize - 1⟩

/-- The number of a range for a number, and whether that is another one. -/
def NumberRange.clamp (range : NumberRange) (i : Int) : Int × Option NumberFault :=
  if i < range.least then
    (if range = .unsigned then range.most else range.least, some .outOfRange)
  else if range.most < i then (range.most, some .outOfRange)
  else (i, none)

/-- The whole number that an argument writes, as far as it writes one. A quote before a character
gives the code point of that character. -/
def readInteger (range : NumberRange) (argument : String) : Int × Option NumberFault :=
  let signed (sign : Int) (cs : List Char) : Int × Option NumberFault :=
    match readDigits cs with
    | some (n, []) => range.clamp (sign * n)
    | some (n, _ :: _) => ((range.clamp (sign * n)).1, some .trailing)
    | none => (0, some .notNumber)
  match argument.toList.dropWhile isNumberBlank with
  | [] => (0, if argument = "" then none else some .notNumber)
  | '\'' :: c :: _ => (c.toNat, none)
  | '"' :: c :: _ => (c.toNat, none)
  | '-' :: cs => signed (-1) cs
  | '+' :: cs => signed 1 cs
  | cs => signed 1 cs

/-- A number with a fraction: a whole number times a power of two, which may be negative. -/
structure BinaryNumber where
  negative : Bool
  mantissa : Nat
  exponent : Int
  deriving DecidableEq, Repr

/-- A number with a fraction that is near to a quotient: fifty-three binary digits of it, where a
half goes to the even neighbour. -/
def BinaryNumber.ofQuotient (negative : Bool) (numerator denominator : Nat) : BinaryNumber :=
  if numerator = 0 then ⟨negative, 0, 0⟩
  else
    let shift : Int := 54 + Int.ofNat denominator.log2 - Int.ofNat numerator.log2
    let scaled :=
      if 0 ≤ shift then (numerator * Nat.pow 2 shift.toNat, denominator)
      else (numerator, denominator * Nat.pow 2 (-shift).toNat)
    let quotient := scaled.1 / scaled.2
    let drop := quotient.log2 - 52
    let unit := Nat.pow 2 drop
    let low := quotient % unit
    let exact := scaled.1 % scaled.2 = 0
    let kept := quotient / unit
    let up := unit < 2 * low ∨ (2 * low = unit ∧ (!exact ∨ kept % 2 = 1))
    ⟨negative, if up then kept + 1 else kept, Int.ofNat drop - shift⟩

/-- The number times a power of ten, rounded to a whole number; a half goes to the even one. -/
def BinaryNumber.scaled (r : BinaryNumber) (places : Int) : Nat :=
  let up (i : Int) : Nat := i.toNat
  let numerator := r.mantissa * Nat.pow 2 (up r.exponent) * Nat.pow 10 (up places)
  let denominator := Nat.pow 2 (up (-r.exponent)) * Nat.pow 10 (up (-places))
  let quotient := numerator / denominator
  let twice := 2 * (numerator % denominator)
  if denominator < twice ∨ (twice = denominator ∧ quotient % 2 = 1) then quotient + 1 else quotient

/-- A number of places behind the point at which every number that is not zero has digits. -/
def enoughPlaces : Nat := 340

/-- The number of digits before the point, less one; for a number below one it is negative. -/
def BinaryNumber.magnitude (r : BinaryNumber) : Int :=
  let numerator := r.mantissa * Nat.pow 2 r.exponent.toNat * Nat.pow 10 enoughPlaces
  let whole := numerator / Nat.pow 2 (-r.exponent).toNat
  if r.mantissa = 0 then 0
  else Int.ofNat (Nat.toDigits 10 whole).length - 1 - Int.ofNat enoughPlaces

/-- The digits of a number with a fraction of some places. -/
def BinaryNumber.fixed (r : BinaryNumber) (places : Nat) : List Char :=
  let ds := Nat.toDigits 10 (r.scaled places)
  let ds := List.replicate (places + 1 - ds.length) '0' ++ ds
  let whole := ds.take (ds.length - places)
  if places = 0 then whole else whole ++ '.' :: ds.drop whole.length

/-- The number with one digit before the point, and the power of ten that it is taken times. -/
def BinaryNumber.scientific (r : BinaryNumber) (places : Nat) : List Char × Int :=
  let power := r.magnitude
  let ds := Nat.toDigits 10 (r.scaled (Int.ofNat places - power))
  let (ds, power) := if ds.length = places + 2 then (ds.dropLast, power + 1) else (ds, power)
  let ds := ds ++ List.replicate (places + 1 - ds.length) '0'
  (if places = 0 then ds.take 1 else ds.take 1 ++ '.' :: ds.drop 1, power)

/-- A power of ten behind the digits. -/
def showPower (power : Int) : List Char :=
  let ds := Nat.toDigits 10 power.natAbs
  ['e', if power < 0 then '-' else '+'] ++ List.replicate (2 - ds.length) '0' ++ ds

/-- Digits without the zeros at the end of a fraction. -/
def dropZeros (ds : List Char) : List Char :=
  if ds.contains '.' then
    ((ds.reverse.dropWhile (· == '0')).dropWhile (· == '.')).reverse
  else ds

/-- The shorter one of the two ways to show a number in some digits. -/
def BinaryNumber.general (r : BinaryNumber) (digits : Nat) : List Char :=
  let digits := max digits 1
  let (ds, power) := r.scientific (digits - 1)
  if power < -4 ∨ Int.ofNat digits ≤ power then dropZeros ds ++ showPower power
  else dropZeros (r.fixed (Int.ofNat digits - 1 - power).toNat)

/-- The number with a fraction that an argument writes, as far as it writes one. -/
def readReal (argument : String) : BinaryNumber × Option NumberFault :=
  let (negative, cs) := match argument.toList.dropWhile isNumberBlank with
    | '-' :: cs => (true, cs)
    | '+' :: cs => (false, cs)
    | cs => (false, cs)
  let whole := cs.takeWhile Char.isDigit
  let (fraction, rest) := match cs.drop whole.length with
    | '.' :: more => (more.takeWhile Char.isDigit, more.dropWhile Char.isDigit)
    | rest => ([], rest)
  let (power, rest) : Int × List Char := match rest with
    | 'e' :: '-' :: d :: more | 'E' :: '-' :: d :: more =>
      if d.isDigit then
        (-Int.ofNat (numberOf 10 ((d :: more).takeWhile Char.isDigit)),
          more.dropWhile Char.isDigit)
      else (0, rest)
    | 'e' :: '+' :: d :: more | 'E' :: '+' :: d :: more | 'e' :: d :: more | 'E' :: d :: more =>
      if d.isDigit then
        (Int.ofNat (numberOf 10 ((d :: more).takeWhile Char.isDigit)),
          more.dropWhile Char.isDigit)
      else (0, rest)
    | rest => (0, rest)
  let digits := whole ++ fraction
  if argument = "" then (⟨false, 0, 0⟩, none)
  else if digits = [] then (⟨false, 0, 0⟩, some .notNumber)
  else
    let scale := max (-400) (min 400 (power - Int.ofNat fraction.length))
    let r := BinaryNumber.ofQuotient negative (numberOf 10 digits * Nat.pow 10 scale.toNat)
      (Nat.pow 10 (-scale).toNat)
    (r, if rest = [] then none else some .trailing)

/-- A number with a fraction in its field. -/
def Directive.showReal (d : Directive) (r : BinaryNumber) : Bytes :=
  let places := d.precision.getD 6
  let digits := match d.conversion.toLower with
    | 'f' => r.fixed places
    | 'e' =>
      let (ds, power) := r.scientific places
      ds ++ showPower power
    | _ => r.general places
  let digits := if d.conversion.isUpper then digits.map Char.toUpper else digits
  d.fill true (if r.negative then ['-'] else d.sign) digits

/-! ## Printing -/

/-- What ends a printing that cannot go on. -/
inductive PrintFault where
  /-- A directive is none; its text is given. -/
  | badDirective (text : List Char)
  /-- A directive has no letter; its text is given. -/
  | endsEarly (text : List Char)
  | badEscape (fault : EscapeFault)
  deriving DecidableEq, Repr

/-- How a printing ends. -/
inductive PrintEnd where
  | through
  | stopped
  | broken (fault : PrintFault)
  deriving DecidableEq, Repr

/-- What has been printed: bytes, the arguments that are left, those that are no numbers, and how
the printing ended. -/
structure Printed where
  bytes : Bytes := []
  left : List String := []
  faults : List (String × NumberFault) := []
  finish : PrintEnd := .through
  deriving DecidableEq, Repr

/-- A number wrapped around into a machine word. -/
def unsigned (i : Int) : Nat :=
  (i % wordSize).toNat

/-- How a program prints. -/
structure Printer where
  /-- The escapes in formats. -/
  dialect : Dialect
  /-- Directives may say how long numbers are. -/
  lengths : Bool
  deriving DecidableEq, Repr

/-- An argument shown as a directive says: its bytes, what is wrong with it, and how an escape in it
ends the printing. -/
def Directive.apply (dialect : Dialect) (d : Directive) (argument : String) :
    Option (Bytes × Option NumberFault × TextEnd) :=
  let (i, fault) := readInteger .signed argument
  let (n, wideFault) := readInteger .unsigned argument
  let plain (base : Nat) : Bytes := d.showWhole [] base (unsigned n)
  match d.conversion with
  | 's' => some (d.showBytes (bytesOf argument), none, .through)
  | 'b' =>
    let (bs, finish) := unescape { dialect with zeroLed := true, stops := true } argument.toList
    some (d.showBytes bs, none, finish)
  | 'c' => some (d.pad [(bytesOf argument).headD 0], none, .through)
  | 'd' | 'i' =>
    some (d.showWhole (if i < 0 then ['-'] else d.sign) 10 i.natAbs, fault, .through)
  | 'u' => some (plain 10, wideFault, .through)
  | 'o' => some (plain 8, wideFault, .through)
  | 'x' => some (plain 16, wideFault, .through)
  | 'X' =>
    let upper (b : UInt8) : UInt8 := if 0x61 ≤ b && b ≤ 0x7A then b - 0x20 else b
    some ((plain 16).map upper, wideFault, .through)
  | 'e' | 'E' | 'f' | 'F' | 'g' | 'G' =>
    let (r, fault) := readReal argument
    some (d.showReal r, fault, .through)
  | _ => none

/-- Adds bytes that are printed before the rest. -/
def Printed.after (p : Printed) (bs : Bytes) : Printed :=
  { p with bytes := bs ++ p.bytes }

/-- A printing that ends. -/
def Printed.ending (bs : Bytes) (finish : PrintEnd) : Printed :=
  { bytes := bs, finish := finish }

/-- The size that a directive asks for, what is wrong with it, and the arguments behind it. -/
def Size.read (arguments : List String) : Size → Int × List (String × NumberFault) × List String
  | .given n => (n, [], arguments)
  | .next =>
    let a := arguments.headD ""
    let (i, fault) := readInteger .signed a
    (i, fault.toList.map (a, ·), arguments.tail)

/-- The directive that a text with a letter stands for, what is wrong with its sizes, and the
arguments behind them. -/
def DirectiveText.read (t : DirectiveText) (conversion : Char) (arguments : List String) :
    Directive × List (String × NumberFault) × List String :=
  let (width, faults, arguments) := t.width.read arguments
  let (precision, more, arguments) := match t.precision with
    | none => (none, [], arguments)
    | some size =>
      let (i, faults, arguments) := size.read arguments
      (if i < 0 then none else some i.toNat, faults, arguments)
  ({ left := t.flags.contains '-' || width < 0
     zeros := t.flags.contains '0'
     sign := if t.flags.contains '+' then ['+'] else if t.flags.contains ' ' then [' '] else []
     marked := t.flags.contains '#'
     width := width.natAbs
     precision
     conversion }, faults ++ more, arguments)

/-- What is printed for a format used once. -/
def formatOnce (p : Printer) (arguments : List String) : List Char → Printed
  | [] => { left := arguments }
  | '%' :: '%' :: cs => (formatOnce p arguments cs).after [0x25]
  | '%' :: cs =>
    let t := directiveText p.lengths cs
    match t.conversion with
    | none => .ending [] (.broken (.endsEarly ('%' :: cs)))
    | some letter =>
      let (d, faults, others) := t.read letter arguments
      match d.apply p.dialect (others.headD "") with
      | none => .ending [] (.broken (.badDirective ('%' :: cs.take (t.length + 1))))
      | some (bs, _, .stopped) => .ending bs .stopped
      | some (bs, _, .broken fault) => .ending bs (.broken (.badEscape fault))
      | some (bs, fault, .through) =>
        let rest := formatOnce p others.tail (cs.drop (t.length + 1))
        { rest.after bs with
          faults := faults ++ (fault.toList.map (others.headD "", ·)) ++ rest.faults }
  | '\\' :: c :: cs =>
    match escape? p.dialect c cs with
    | some (.bytes bs, n) => (formatOnce p arguments (cs.drop n)).after bs
    | some (.stop, _) => .ending [] .stopped
    | some (.faulty fault, _) => .ending [] (.broken (.badEscape fault))
    | none => (formatOnce p arguments (c :: cs)).after [0x5C]
  | c :: cs => (formatOnce p arguments cs).after (bytesOfChars [c])
termination_by cs => cs.length
decreasing_by
  all_goals simp only [List.length_cons, List.length_drop]; omega

/-- What is printed for a format used again while arguments are left, but not more often than the
first argument says. -/
def formatAgain (p : Printer) (format : List Char) : Nat → List String → Printed
  | 0, arguments => formatOnce p arguments format
  | n + 1, arguments =>
    let first := formatOnce p arguments format
    if first.finish ≠ .through || first.left.isEmpty || first.left.length = arguments.length then
      first
    else
      let rest := formatAgain p format n first.left
      { rest.after first.bytes with faults := first.faults ++ rest.faults }

/-- What is printed for a format and arguments. -/
def formatAll (p : Printer) (format : String) (arguments : List String) : Printed :=
  formatAgain p format.toList arguments.length arguments

end Scaffold.Shell
