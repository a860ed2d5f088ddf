import Scaffold.Console.EmojiTable
import Scaffold.Text.Blank
import Scaffold.Text.Case
import Scaffold.Text.Replace

/-!
# Pictures by name

A name between colons, such as `:rocket:`, is shown as a picture if there is one of that name.
Behind the name, `-text` or `-emoji` asks for one of two ways to draw it.

* `picture?`: the picture of a name.
* `withPictures`: a text with pictures in the place of their codes.
-/

namespace Scaffold.Console

/-! ## Names -/

/-- The picture of a name, which may be written in capital letters. -/
def picture? (name : String) : Option String :=
  let wanted := Text.toLower name
  emojiCodes.findSome? fun entries =>
    (Text.splitOn ';' entries).findSome? fun entry =>
      match Text.splitOn ' ' entry with
      | [n, picture] => if n = wanted then some picture else none
      | _ => none

/-- The ends of codes that say how a picture is drawn, and the selectors that are put behind it. -/
def drawings : List (String × String) :=
  [("-text", "\uFE0E"), ("-emoji", "\uFE0F")]

/-- The picture that a code between colons stands for. -/
def codePicture? (code : String) : Option String :=
  match drawings.find? fun d => code.endsWith d.1 with
  | some (ending, selector) =>
    let name := String.ofList (code.toList.take (code.length - ending.length))
    (picture? name).map (· ++ selector)
  | none => picture? code

/-! ## Texts -/

/-- The characters of a code up to a colon, and those behind it; there is no blank in a code. -/
def codeEnd? (cs : List Char) : Option (List Char × List Char) :=
  let isInside (c : Char) : Bool := c != ':' && !Text.isBlank c
  match cs.dropWhile isInside with
  | ':' :: rest => some (cs.takeWhile isInside, rest)
  | _ => none

/-- The end of a code uses up some of the text. -/
theorem codeEnd?_shorter {cs code rest : List Char} (h : codeEnd? cs = some (code, rest)) :
    rest.length < cs.length := by
  simp only [codeEnd?] at h
  split at h
  · next rest' hd =>
    obtain ⟨-, rfl⟩ := Prod.mk.inj (Option.some.inj h)
    have := (List.dropWhile_suffix (l := cs) fun c => c != ':' && !Text.isBlank c).length_le
    rw [hd, List.length_cons] at this
    omega
  · simp at h

/-- Characters with pictures in the place of their codes. A code without a picture stays. -/
def withPictures (cs : List Char) : List Char :=
  match cs with
  | [] => []
  | c :: cs =>
    if c = ':' then
      match _h : codeEnd? cs with
      | some (code, rest) =>
        match codePicture? (String.ofList code) with
        | some picture => picture.toList ++ withPictures rest
        | none => ':' :: code ++ ':' :: withPictures rest
      | none => c :: withPictures cs
    else c :: withPictures cs
termination_by cs.length
decreasing_by
  · have := codeEnd?_shorter _h
    simp only [List.length_cons]
    omega
  · have := codeEnd?_shorter _h
    simp only [List.length_cons]
    omega
  · simp
  · simp

end Scaffold.Console
