import Scaffold.Text.WidthTable

/-!
# Columns of a text

A console shows a text in columns. A character takes none, one or two of them; a joiner makes one
picture of its two neighbours, and an emoji selector turns some signs of one column into pictures
of two.

* `columns`: the columns of a character on its own.
* `width`: the columns of a text.
* `clusters`: the characters of a text put together with what belongs to them.
* `crop`, `chop`: a text cut off at a column, and a text cut into pieces of some columns.
-/

namespace Scaffold.Text

/-! ## Characters -/

/-- The columns of a character on its own. -/
def columns (c : Char) : Nat :=
  if flat.contains c then 0 else if wide.contains c then 2 else 1

/-- The character that joins its neighbours. -/
def joiner : Char := '\u200D'

/-- The character that asks for a picture in the place of the sign before it. -/
def emojiSelector : Char := '\uFE0F'

/-- The sign that was shown last takes one more column when it is shown as a picture. -/
def widens (last : Option Char) : Bool :=
  last.any widenable.contains

/-! ## Texts -/

/-- The columns of characters that come after a sign. -/
def widthAfter (last : Option Char) : List Char → Nat
  | [] => 0
  | c :: cs =>
    if c = joiner then
      match cs with
      | [] => 0
      | _ :: cs => widthAfter last cs
    else if c = emojiSelector then (if widens last then 1 else 0) + widthAfter none cs
    else if columns c = 0 then widthAfter last cs
    else columns c + widthAfter (some c) cs

/-- The columns of a text. -/
def width (cs : List Char) : Nat :=
  widthAfter none cs

/-! ## Clusters -/

/-- A character with those that belong to it, and the columns that they take together. -/
structure Cluster where
  chars : List Char
  columns : Nat
  deriving DecidableEq, Repr

/-- A cluster with one more character and some more columns. -/
def Cluster.add (k : Cluster) (c : Char) (more : Nat) : Cluster :=
  ⟨k.chars ++ [c], k.columns + more⟩

/-- The clusters of characters that come after a cluster, whose last sign is given. -/
def clustersAfter (k : Cluster) (last : Option Char) : List Char → List Cluster
  | [] => [k]
  | c :: cs =>
    if c = joiner then
      match cs with
      | [] => [k.add c 0]
      | d :: cs => clustersAfter ((k.add c 0).add d 0) last cs
    else if c = emojiSelector then clustersAfter (k.add c (if widens last then 1 else 0)) none cs
    else if columns c = 0 then clustersAfter (k.add c 0) last cs
    else k :: clustersAfter ⟨[c], columns c⟩ (some c) cs

/-- The clusters of a text. -/
def clusters : List Char → List Cluster
  | [] => []
  | c :: cs => clustersAfter ⟨[c], columns c⟩ (if columns c = 0 then none else some c) cs

/-! ## Cutting -/

/-- The clusters that fit into some columns. A blank stands for the half of a cluster that does
not. -/
def cropClusters (room : Nat) : List Cluster → List Char
  | [] => []
  | k :: ks =>
    if room = 0 then []
    else if k.columns ≤ room then k.chars ++ cropClusters (room - k.columns) ks
    else List.replicate room ' '

/-- A text cut off at a column. -/
def crop (room : Nat) (cs : List Char) : List Char :=
  cropClusters room (clusters cs)

/-- Clusters cut into pieces that fit into some columns each; the first piece has a beginning that
takes some columns. -/
def chopClusters (room : Nat) (piece : List Char) (used : Nat) : List Cluster → List (List Char)
  | [] => [piece]
  | k :: ks =>
    if used + k.columns ≤ room then
      chopClusters room (piece ++ k.chars) (used + k.columns) ks
    else piece :: chopClusters room k.chars k.columns ks

/-- A text cut into pieces that fit into some columns each. -/
def chop (room : Nat) (cs : List Char) : List (List Char) :=
  chopClusters room [] 0 (clusters cs)

end Scaffold.Text
