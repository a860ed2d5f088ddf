/-!
# Sets of characters as sorted ranges

A property of characters, such as being a letter, is given by a list of ranges of code points in
increasing order. `CharSet.contains` decides membership by one pass over the list that stops at
the first range beyond the character.

* `CharSet.contains_iff`: on a sorted list membership is membership in one of the ranges.
* `CharSet.Sorted` is decidable, so a table is checked to be sorted by evaluation.
-/

namespace Scaffold.Text

/-! ## Ranges -/

/-- The code points `first, first + step, …` up to `last`. -/
structure CodeRange where
  first : Nat
  last : Nat
  step : Nat
  deriving DecidableEq, Repr

/-- A code point lies in a range when it is within the bounds and a whole number of steps away
from the first. -/
def CodeRange.contains (r : CodeRange) (n : Nat) : Bool :=
  r.first ≤ n && n ≤ r.last && (n - r.first) % r.step == 0

/-! ## Sets -/

/-- A set of characters, listed as ranges of code points from the lowest up. -/
structure CharSet where
  ranges : List CodeRange
  deriving DecidableEq, Repr

namespace CharSet

/-- The set of all code points within the given bounds, both ends included. -/
def ofBounds (bounds : List (Nat × Nat)) : CharSet :=
  ⟨bounds.map fun (first, last) => ⟨first, last, 1⟩⟩

/-- The set of the code points of ranges given by first code point, last one and step. -/
def ofRanges (ranges : List (Nat × Nat × Nat)) : CharSet :=
  ⟨ranges.map fun (first, last, step) => ⟨first, last, step⟩⟩

/-- The search through ranges that are sorted: it gives up at the first range above `n`. -/
def search (n : Nat) : List CodeRange → Bool
  | [] => false
  | r :: rs => if n < r.first then false else r.contains n || search n rs

/-- Membership of a character. -/
def contains (s : CharSet) (c : Char) : Bool :=
  search c.toNat s.ranges

/-- The ranges are listed from the lowest first code point up. -/
def Sorted (s : CharSet) : Prop :=
  s.ranges.Pairwise (fun a b => a.first ≤ b.first)

instance (s : CharSet) : Decidable s.Sorted :=
  inferInstanceAs (Decidable (s.ranges.Pairwise _))

/-- On a sorted list the search finds a code point exactly when some range contains it. -/
theorem search_iff {n : Nat} {rs : List CodeRange}
    (h : rs.Pairwise (fun a b => a.first ≤ b.first)) :
    search n rs = true ↔ ∃ r ∈ rs, r.contains n = true := by
  induction rs with
  | nil => simp [search]
  | cons r rs ih =>
    obtain ⟨hr, hrs⟩ := List.pairwise_cons.1 h
    by_cases hn : n < r.first
    · simp only [search, if_pos hn, Bool.false_eq_true, false_iff]
      rintro ⟨s, hs, hc⟩
      have hle : r.first ≤ s.first := by
        rcases List.mem_cons.1 hs with rfl | hs
        · exact Nat.le_refl _
        · exact hr s hs
      simp only [CodeRange.contains, Bool.and_eq_true, decide_eq_true_eq] at hc
      omega
    · simp [search, if_neg hn, ih hrs]

/-- A sorted set of ranges has the characters of each of them. -/
theorem contains_iff {s : CharSet} (h : s.Sorted) {c : Char} :
    s.contains c = true ↔ ∃ r ∈ s.ranges, r.contains c.toNat = true :=
  search_iff h

end CharSet

end Scaffold.Text
