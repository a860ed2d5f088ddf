import Mathlib.Tactic.Lemma
import Scaffold.Template.Token
import Scaffold.Text.Blank

/-!
# Classes of characters that have nothing in common

* `CharSet.Apart`: no range of one set reaches into a range of the other, which is decided by
  comparing the tables.
* `isWordChar_of_isBlank`, `isNameStart_of_isBlank`: a blank is neither part of a word nor its
  start.
-/

namespace Scaffold.Text

/-- Every range of one set lies before or behind every range of the other. -/
def CharSet.Apart (s t : CharSet) : Prop :=
  ∀ r ∈ s.ranges, ∀ r' ∈ t.ranges, r.last < r'.first ∨ r'.last < r.first

instance (s t : CharSet) : Decidable (s.Apart t) :=
  inferInstanceAs (Decidable (∀ r ∈ s.ranges, ∀ r' ∈ t.ranges, _))

/-- The search finds a code point only in one of the ranges. -/
lemma CharSet.exists_range_of_search {n : Nat} {rs : List CodeRange}
    (h : CharSet.search n rs = true) : ∃ r ∈ rs, r.first ≤ n ∧ n ≤ r.last := by
  induction rs with
  | nil => cases h
  | cons r rs ih =>
      rw [CharSet.search] at h
      split at h
      · cases h
      · rw [Bool.or_eq_true] at h
        rcases h with h | h
        · simp only [CodeRange.contains, Bool.and_eq_true, decide_eq_true_eq] at h
          exact ⟨r, List.mem_cons_self, h.1⟩
        · obtain ⟨r', hr', hn⟩ := ih h
          exact ⟨r', List.mem_cons_of_mem r hr', hn⟩

/-- A character of one set is not in a set apart from it. -/
lemma CharSet.Apart.contains_eq_false {s t : CharSet} (h : s.Apart t) {c : Char}
    (hc : s.contains c = true) : t.contains c = false := by
  rw [Bool.eq_false_iff]
  intro hc'
  obtain ⟨r, hr, hrc⟩ := exists_range_of_search hc
  obtain ⟨r', hr', hrc'⟩ := exists_range_of_search hc'
  have := h r hr r' hr'
  omega

/-- A blank is part of no word. -/
lemma isWordChar_of_isBlank {c : Char} (h : isBlank c = true) : isWordChar c = false := by
  have hletters : blanks.Apart letters := by decide +kernel
  have hnumerals : blanks.Apart numerals := by decide +kernel
  rw [isWordChar, Bool.or_eq_false_iff]
  exact ⟨hletters.contains_eq_false h, hnumerals.contains_eq_false h⟩

end Scaffold.Text

namespace Scaffold.Template

open Text (isBlank)

/-- A blank is part of no name. -/
lemma isNameChar_of_isBlank {c : Char} (h : isBlank c = true) : isNameChar c = false := by
  rw [isNameChar, Bool.or_eq_false_iff]
  refine ⟨Text.isWordChar_of_isBlank h, ?_⟩
  rw [beq_eq_false_iff_ne]
  rintro rfl
  revert h
  decide

/-- A blank starts no name. -/
lemma isNameStart_of_isBlank {c : Char} (h : isBlank c = true) : isNameStart c = false := by
  rw [Bool.eq_false_iff]
  intro hs
  have := isNameChar_of_isNameStart hs
  rw [isNameChar_of_isBlank h] at this
  cases this

end Scaffold.Template
