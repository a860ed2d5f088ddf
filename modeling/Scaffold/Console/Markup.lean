import Scaffold.Console.Emoji
import Scaffold.Console.Style

/-!
# Markup

Messages may hold tags, such as `[bold]`, which style what follows and are not shown. A tag opens
with a bracket and a small letter, `#`, `/` or `@`, and ends at the first closing bracket, with no
other bracket opened in between. Backslashes before a tag are halved, and an odd one left over
makes the tag plain text. A tag with a slash closes the style that it names, or the last one opened
if it names none.

* `pieces`: the texts and tags of a text with markup.
* `plain`: what is shown of a text with markup, unless a tag closes nothing.
* `escape`: a text with backslashes added so that its tags are shown.
-/

namespace Scaffold.Console

/-- Why a text with markup cannot be shown. Positions count characters from zero. -/
inductive MarkupError where
  /-- A tag closes a style that was not opened. -/
  | unmatched (tag : String) (position : Nat)
  /-- A tag closes the last style when none is open. -/
  | nothingOpen (position : Nat)
  deriving DecidableEq, Repr

/-- The wording of an error. -/
def MarkupError.message : MarkupError → String
  | .unmatched tag position =>
    "closing tag '[" ++ tag ++ "]' at position " ++ toString position ++
      " doesn't match any open tag"
  | .nothingOpen position =>
    "closing tag '[/]' at position " ++ toString position ++ " has nothing to close"

namespace Markup

/-! ## Tags -/

/-- A character that a tag may start with. -/
def isTagStart (c : Char) : Bool :=
  ('a' ≤ c && c ≤ 'z') || c == '#' || c == '/' || c == '@'

/-- The characters up to a closing bracket, and those behind it; none if another bracket opens
before. -/
def tagEnd? : List Char → Option (List Char × List Char)
  | [] => none
  | ']' :: cs => some ([], cs)
  | '[' :: _ => none
  | c :: cs => (tagEnd? cs).map fun (body, rest) => (c :: body, rest)

/-- The inside of the tag that some characters start with, behind its opening bracket, and what
comes after it. -/
def tag? : List Char → Option (List Char × List Char)
  | c :: cs => if isTagStart c then (tagEnd? cs).map fun (body, rest) => (c :: body, rest) else none
  | [] => none

/-- The end of a tag uses up some of the text. -/
theorem tagEnd?_shorter {cs body rest : List Char} (h : tagEnd? cs = some (body, rest)) :
    rest.length < cs.length := by
  fun_induction tagEnd? cs generalizing body rest with
  | case1 => simp at h
  | case2 cs =>
    obtain ⟨-, rfl⟩ := Prod.mk.inj (Option.some.inj h)
    simp
  | case3 => simp at h
  | case4 c cs _ _ ih =>
    obtain ⟨⟨b, r⟩, hr, heq⟩ := Option.map_eq_some_iff.1 h
    obtain ⟨-, rfl⟩ := Prod.mk.inj heq
    have := ih hr
    simp only [List.length_cons]
    omega

/-- A tag uses up some of the text. -/
theorem tag?_shorter {cs body rest : List Char} (h : tag? cs = some (body, rest)) :
    rest.length < cs.length := by
  cases cs with
  | nil => simp [tag?] at h
  | cons c cs =>
    simp only [tag?] at h
    split at h
    · obtain ⟨⟨b, r⟩, hr, heq⟩ := Option.map_eq_some_iff.1 h
      obtain ⟨-, rfl⟩ := Prod.mk.inj heq
      have := tagEnd?_shorter hr
      simp only [List.length_cons]
      omega
    · simp at h

/-! ## Pieces -/

/-- A piece of a text with markup: characters that are shown, or a tag and where it stands. -/
inductive Piece where
  | text (cs : List Char)
  | tag (position : Nat) (body : List Char)
  deriving DecidableEq, Repr

/-- The pieces of characters that come after a run of text, which is given backwards, and some
backslashes, at a position. A backslash before a bracket that opens no tag is left out. -/
def piecesAfter (position : Nat) (run : List Char) (backslashes : Nat) (cs : List Char) :
    List Piece :=
  match cs with
  | [] => [.text (run.reverse ++ List.replicate backslashes '\\')]
  | c :: cs =>
    if c = '\\' then piecesAfter (position + 1) run (backslashes + 1) cs
    else if c = '[' then
      match _h : tag? cs with
      | some (body, rest) =>
        .text run.reverse :: .text (List.replicate (backslashes / 2) '\\') ::
          (if backslashes % 2 = 1 then .text ('[' :: body ++ [']']) else .tag position body) ::
          piecesAfter (position + body.length + 2) [] 0 rest
      | none =>
        piecesAfter (position + 1) ('[' :: List.replicate (backslashes - 1) '\\' ++ run) 0 cs
    else piecesAfter (position + 1) (c :: List.replicate backslashes '\\' ++ run) 0 cs
termination_by cs.length
decreasing_by
  · simp
  · have := tag?_shorter _h
    simp only [List.length_cons]
    omega
  · simp
  · simp

/-- The pieces of a text with markup. -/
def pieces (s : String) : List Piece :=
  piecesAfter 0 [] 0 s.toList

/-- The characters of pieces that are shown. The code of a picture has to lie in one piece. -/
def shownChars (ps : List Piece) : List Char :=
  ps.flatMap fun
    | .text cs => withPictures cs
    | .tag _ _ => []

/-! ## Styles -/

/-- The styles that are open after a tag, the last one first, or why it closes nothing. What comes
behind an equals sign is no part of the name. -/
def afterTag (opened : List String) (position : Nat) (body : List Char) :
    Except MarkupError (List String) :=
  match body.takeWhile (· ≠ '=') with
  | '/' :: name =>
    let name := Text.strip (String.ofList name)
    if name = "" then
      match opened with
      | [] => .error (.nothingOpen position)
      | _ :: opened => .ok opened
    else
      let style := normalStyle name
      if style ∈ opened then .ok (opened.erase style)
      else .error (.unmatched (String.ofList body) position)
  | name => .ok (normalStyle (String.ofList name) :: opened)

/-- Every tag among some pieces that closes a style closes one that is open. -/
def check (opened : List String) : List Piece → Except MarkupError Unit
  | [] => .ok ()
  | .text _ :: ps => check opened ps
  | .tag position body :: ps => do check (← afterTag opened position body) ps

/-- What is shown of a text with markup. -/
def plain (s : String) : Except MarkupError String := do
  check [] (pieces s)
  return String.ofList (shownChars (pieces s))

/-! ## Escaping -/

/-- Characters after some backslashes, with those before a tag doubled and one added. -/
def escapeAfter (backslashes : Nat) : List Char → List Char
  | [] => List.replicate backslashes '\\'
  | c :: cs =>
    if c = '\\' then escapeAfter (backslashes + 1) cs
    else if c = '[' ∧ (tag? cs).isSome then
      List.replicate (2 * backslashes + 1) '\\' ++ '[' :: escapeAfter 0 cs
    else List.replicate backslashes '\\' ++ c :: escapeAfter 0 cs

/-- A text ends in a single backslash. -/
def endsInOneBackslash (cs : List Char) : Bool :=
  (cs.reverse.takeWhile (· == '\\')).length == 1

/-- A text with backslashes added so that its tags are shown. A single backslash at the end is
doubled, for a tag may follow. -/
def escape (s : String) : String :=
  let escaped := escapeAfter 0 s.toList
  String.ofList (if endsInOneBackslash escaped then escaped ++ ['\\'] else escaped)

end Markup

end Scaffold.Console
