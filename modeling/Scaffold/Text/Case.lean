import Scaffold.Text.CaseTable

/-!
# Upper and lower case

The full case maps of the character database: a character may map to several, and a capital sigma
maps to the final form `ς` at the end of a word and to `σ` elsewhere.

* `upperChar`, `lowerChar`: the image of one character, which does not depend on its neighbours.
* `toLower`: the lower case of a text, where the sigma looks at both sides.
* `upperChar_ne_nil`, `lowerChar_ne_nil`: no character disappears.
-/

namespace Scaffold.Text

/-! ## One character -/

/-- The image of a character under a case map given by its two tables. -/
def mapCase (expansions : List (Nat × List Nat)) (ranges : List CaseRange) (c : Char) :
    List Char :=
  match expansions.lookup c.toNat with
  | some (n :: ns) => Char.ofNat n :: ns.map Char.ofNat
  | _ =>
    match CaseRange.lookup c.toNat ranges with
    | some n => [Char.ofNat n]
    | none => [c]

/-- The upper case of a character. -/
def upperChar (c : Char) : List Char :=
  mapCase upperExpansions upperRanges c

/-- The lower case of a character on its own. -/
def lowerChar (c : Char) : List Char :=
  mapCase lowerExpansions lowerRanges c

/-- A character in another case is at least one character. -/
theorem mapCase_ne_nil (expansions : List (Nat × List Nat)) (ranges : List CaseRange) (c : Char) :
    mapCase expansions ranges c ≠ [] := by
  unfold mapCase
  split
  · simp
  · split <;> simp

/-- So it is in upper case. -/
theorem upperChar_ne_nil (c : Char) : upperChar c ≠ [] :=
  mapCase_ne_nil _ _ c

/-- And in lower case. -/
theorem lowerChar_ne_nil (c : Char) : lowerChar c ≠ [] :=
  mapCase_ne_nil _ _ c

/-! ## The final sigma -/

/-- The next character that is not passed over is a letter with case. -/
def meetsCased (cs : List Char) : Bool :=
  match cs.dropWhile caseIgnorables.contains with
  | [] => false
  | c :: _ => casedLetters.contains c

/-- The lower case of a capital sigma between the characters before it, nearest first, and those
after it: final when a letter with case comes before and none comes after. -/
def lowerSigma (before after : List Char) : Char :=
  if meetsCased before && !meetsCased after then 'ς' else 'σ'

/-! ## Texts -/

/-- The lower case of the characters that follow `before`, which lists what precedes them from the
nearest on. -/
def lowerAfter (before : List Char) : List Char → List Char
  | [] => []
  | c :: cs =>
    (if c = 'Σ' then [lowerSigma before cs] else lowerChar c) ++ lowerAfter (c :: before) cs

/-- The lower case of a text. -/
def toLower (s : String) : String :=
  String.ofList (lowerAfter [] s.toList)

end Scaffold.Text
