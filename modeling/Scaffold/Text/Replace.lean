/-!
# Replacing parts of a text

* `replaceAll`: every occurrence of a pattern, found from the left and without overlap, is replaced.
  The empty pattern occurs before every character and at the end.
* `splitOn`: the pieces of a text between separators.
* `dropSuffix?`: a text without an ending that it has.
-/

namespace Scaffold.Text

/-! ## Replacement -/

/-- The replacement of a pattern that is not empty. The counter says how many characters still
belong to an occurrence that has been replaced already. -/
def substitute (pattern replacement : List Char) : Nat → List Char → List Char
  | _, [] => []
  | k + 1, _ :: cs => substitute pattern replacement k cs
  | 0, c :: cs =>
    if pattern.isPrefixOf (c :: cs) then
      replacement ++ substitute pattern replacement (pattern.length - 1) cs
    else
      c :: substitute pattern replacement 0 cs

/-- A text put before every character and at the end. -/
def interleave (inserted : List Char) : List Char → List Char
  | [] => inserted
  | c :: cs => inserted ++ c :: interleave inserted cs

/-- A text with every occurrence of a pattern replaced. -/
def replaceAll (s pattern replacement : String) : String :=
  String.ofList <|
    match pattern.toList with
    | [] => interleave replacement.toList s.toList
    | p :: ps => substitute (p :: ps) replacement.toList 0 s.toList

/-! ## Pieces -/

/-- The pieces between separators: the first one, and the list of the others. -/
def splitPieces (separator : Char) : List Char → List Char × List (List Char)
  | [] => ([], [])
  | c :: cs =>
    let (piece, pieces) := splitPieces separator cs
    if c = separator then ([], piece :: pieces) else (c :: piece, pieces)

/-- The pieces of a text between separators; one more than there are separators. -/
def splitOn (separator : Char) (s : String) : List String :=
  let (piece, pieces) := splitPieces separator s.toList
  (piece :: pieces).map String.ofList

/-- A text without its ending, if it has that ending. -/
def dropSuffix? (s ending : String) : Option String :=
  if ending.toList.isSuffixOf s.toList then
    some (String.ofList (s.toList.take (s.toList.length - ending.toList.length)))
  else
    none

end Scaffold.Text
