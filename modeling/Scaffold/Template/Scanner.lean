import Scaffold.Template.Token
import Scaffold.Text.Blank

/-!
# Scanning a template into tokens

A `Scanner` stands at some place of a template, inside or outside a directive. Outside, everything
up to the next opening bracket is one text. Inside, blanks are passed over, and what follows is a
closing bracket, a `!`, a word, or an invalid character; scanning goes on after an invalid one.

* `Scanner.next?`: the next token and the scanner behind it.
* `Scanner.next?_shorter`: every token uses up some of the input, so scanning ends.
* `Scanner.tokens`, `tokenize`: all tokens.
* `splitAtOpen_append`: the text before a bracket and the rest make up the whole.
-/

namespace Scaffold.Template

/-! ## Splitting the input -/

/-- The characters before the first opening bracket, and the rest from that bracket on. -/
def splitAtOpen : List Char → List Char × List Char
  | [] => ([], [])
  | '{' :: '%' :: cs => ([], '{' :: '%' :: cs)
  | c :: cs => (c :: (splitAtOpen cs).1, (splitAtOpen cs).2)

/-- Cutting at the first opening bracket loses nothing. -/
theorem splitAtOpen_append (cs : List Char) : (splitAtOpen cs).1 ++ (splitAtOpen cs).2 = cs := by
  fun_induction splitAtOpen cs <;> simp_all

/-- What is left at the first opening bracket is no longer than the whole. -/
theorem length_splitAtOpen_le (cs : List Char) : (splitAtOpen cs).2.length ≤ cs.length := by
  have h := congrArg List.length (splitAtOpen_append cs)
  simp only [List.length_append] at h
  omega

/-! ## One token -/

/-- A place in a template: what is left of it, whether the place lies inside a directive, and how
many characters come before it. -/
structure Scanner where
  rest : List Char
  inside : Bool
  offset : Nat
  deriving DecidableEq, Repr

namespace Scanner

/-- The start of a template. -/
def start (template : String) : Scanner :=
  ⟨template.toList, false, 0⟩

/-- The next token outside a directive. -/
def nextOutside? (s : Scanner) : Option (Token × Scanner) :=
  match s.rest with
  | [] => none
  | '{' :: '%' :: cs => some (.openBracket, ⟨cs, true, s.offset + 2⟩)
  | c :: cs =>
    let content := c :: (splitAtOpen cs).1
    some (.text (String.ofList content), ⟨(splitAtOpen cs).2, false, s.offset + content.length⟩)

/-- The next token inside a directive, at a character that is not blank. -/
def nextInside? (s : Scanner) : Option (Token × Scanner) :=
  match s.rest with
  | [] => none
  | '%' :: '}' :: cs => some (.closeBracket, ⟨cs, false, s.offset + 2⟩)
  | '!' :: cs => some (.bang, ⟨cs, true, s.offset + 1⟩)
  | c :: cs =>
    if isNameStart c then
      let word := c :: cs.takeWhile isNameChar
      some (.ofWord (String.ofList word),
        ⟨cs.dropWhile isNameChar, true, s.offset + word.length⟩)
    else
      some (.invalid c (s.offset + 1), ⟨cs, true, s.offset + 1⟩)

/-- The scanner behind the blanks that come next. -/
def skipBlanks (s : Scanner) : Scanner :=
  { s with
    rest := s.rest.dropWhile Text.isBlank
    offset := s.offset + (s.rest.takeWhile Text.isBlank).length }

/-- The next token and the scanner behind it; none at the end of the template. -/
def next? (s : Scanner) : Option (Token × Scanner) :=
  if s.inside then s.skipBlanks.nextInside? else s.nextOutside?

/-! ## All tokens -/

/-- What is left behind some elements is no longer than the whole. -/
theorem length_dropWhile_le {α : Type} (p : α → Bool) (l : List α) :
    (l.dropWhile p).length ≤ l.length :=
  (List.dropWhile_suffix p).length_le

/-- A token outside of directives uses up some of the text. -/
theorem nextOutside?_shorter {s s' : Scanner} {t : Token} (h : s.nextOutside? = some (t, s')) :
    s'.rest.length < s.rest.length := by
  unfold nextOutside? at h
  split at h
  · simp at h
  · rename_i cs hs
    obtain ⟨-, rfl⟩ := Prod.mk.inj (Option.some.inj h)
    simp only [hs, List.length_cons]
    omega
  · rename_i c cs _ hs
    obtain ⟨-, rfl⟩ := Prod.mk.inj (Option.some.inj h)
    have := length_splitAtOpen_le cs
    simp only [hs, List.length_cons]
    omega

/-- A token inside of a directive uses up some of the text. -/
theorem nextInside?_shorter {s s' : Scanner} {t : Token} (h : s.nextInside? = some (t, s')) :
    s'.rest.length < s.rest.length := by
  unfold nextInside? at h
  split at h
  · simp at h
  · rename_i cs hs
    obtain ⟨-, rfl⟩ := Prod.mk.inj (Option.some.inj h)
    simp only [hs, List.length_cons]
    omega
  · rename_i cs hs
    obtain ⟨-, rfl⟩ := Prod.mk.inj (Option.some.inj h)
    simp only [hs, List.length_cons]
    omega
  · rename_i c cs _ _ hs
    have := length_dropWhile_le isNameChar cs
    split at h <;> obtain ⟨-, rfl⟩ := Prod.mk.inj (Option.some.inj h) <;>
      simp only [hs, List.length_cons] <;> omega

/-- Every token uses up some of the input. -/
theorem next?_shorter {s s' : Scanner} {t : Token} (h : s.next? = some (t, s')) :
    s'.rest.length < s.rest.length := by
  unfold next? at h
  split at h
  · exact Nat.lt_of_lt_of_le (nextInside?_shorter h) (length_dropWhile_le _ _)
  · exact nextOutside?_shorter h

/-- The tokens from a place on. -/
def tokens (s : Scanner) : List Token :=
  match _h : s.next? with
  | none => []
  | some (t, s') => t :: s'.tokens
termination_by s.rest.length
decreasing_by exact next?_shorter _h

/-- Where no token comes, there is none. -/
theorem tokens_of_next?_eq_none {s : Scanner} (h : s.next? = none) : s.tokens = [] := by
  rw [tokens]
  split <;> simp_all

/-- The tokens are the next one and those behind it. -/
theorem tokens_of_next?_eq_some {s s' : Scanner} {t : Token} (h : s.next? = some (t, s')) :
    s.tokens = t :: s'.tokens := by
  rw [tokens]
  split <;> simp_all

/-- The scanner behind all tokens, which has none left. -/
def finish (s : Scanner) : Scanner :=
  ⟨[], s.inside, s.offset + s.rest.length⟩

end Scanner

/-- The tokens of a template. -/
def tokenize (template : String) : List Token :=
  (Scanner.start template).tokens

end Scaffold.Template
