import Mathlib.Data.List.Basic
import Mathlib.Tactic.Lemma
import Scaffold.Text.Replace

/-!
# Occurrences that are replaced

* `fronts`: what stands in front of each occurrence of a pattern that is replaced.
* `replacing_induction`: a text holds no occurrence, or it begins with what stands in front of the first
  one, and the others are those of the rest.
* `toList_replaceAll`: a text with every occurrence of a pattern replaced, character by character.
* `replaceAll_of_not_isInfix`: where a pattern does not occur, nothing is replaced.
-/

namespace Scaffold.Text

variable {pattern cs : List Char}

/-- What stands in front of each occurrence of a pattern that `substitute` replaces, from the start of the
text on. -/
def fronts (pattern : List Char) : Nat → List Char → List (List Char)
  | _, [] => []
  | k + 1, c :: cs => (fronts pattern k cs).map (c :: ·)
  | 0, c :: cs =>
    if pattern.isPrefixOf (c :: cs) then
      [] :: (fronts pattern (pattern.length - 1) cs).map (c :: ·)
    else
      (fronts pattern 0 cs).map (c :: ·)

/-- The rest of an occurrence that has been replaced is passed over. -/
lemma substitute_add (pattern replacement : List Char) (passed cs : List Char) :
    substitute pattern replacement passed.length (passed ++ cs) =
      substitute pattern replacement 0 cs := by
  induction passed with
  | nil => rfl
  | cons c passed ih => exact ih

/-- What has been passed stands in front of every later occurrence. -/
lemma fronts_add (pattern passed cs : List Char) :
    fronts pattern passed.length (passed ++ cs) = (fronts pattern 0 cs).map (passed ++ ·) := by
  induction passed with
  | nil => simp
  | cons c passed ih => simp [fronts, ih]

/-- At an occurrence, the replacement is put in and the rest is looked at. -/
lemma substitute_append (hpattern : pattern ≠ []) (replacement rest : List Char) :
    substitute pattern replacement 0 (pattern ++ rest) =
      replacement ++ substitute pattern replacement 0 rest := by
  obtain ⟨c, passed, rfl⟩ := List.exists_cons_of_ne_nil hpattern
  have hprefix : (c :: passed).isPrefixOf (c :: (passed ++ rest)) = true :=
    List.isPrefixOf_iff_prefix.mpr (List.prefix_append (c :: passed) rest)
  rw [List.cons_append, substitute, if_pos hprefix, List.length_cons, Nat.add_sub_cancel,
    substitute_add]

/-- An occurrence at the start has nothing in front of it. -/
lemma fronts_append (hpattern : pattern ≠ []) (rest : List Char) :
    fronts pattern 0 (pattern ++ rest) = [] :: (fronts pattern 0 rest).map (pattern ++ ·) := by
  obtain ⟨c, passed, rfl⟩ := List.exists_cons_of_ne_nil hpattern
  have hprefix : (c :: passed).isPrefixOf (c :: (passed ++ rest)) = true :=
    List.isPrefixOf_iff_prefix.mpr (List.prefix_append (c :: passed) rest)
  rw [List.cons_append, fronts, if_pos hprefix, List.length_cons, Nat.add_sub_cancel, fronts_add,
    List.map_map]
  rfl

/-- A text in which nothing is replaced. -/
structure Unreplaced (pattern cs : List Char) : Prop where
  substitute : ∀ replacement, substitute pattern replacement 0 cs = cs
  fronts : fronts pattern 0 cs = []

/-- The first occurrence that is replaced stands behind `front`, and the others are those in `rest`. -/
structure Replaced (pattern front rest cs : List Char) : Prop where
  eq : cs = front ++ (pattern ++ rest)
  substitute : ∀ replacement, substitute pattern replacement 0 cs =
    front ++ (replacement ++ Text.substitute pattern replacement 0 rest)
  fronts : fronts pattern 0 cs =
    front :: (Text.fronts pattern 0 rest).map fun back => front ++ (pattern ++ back)

/-- Nothing is replaced in a text, or there is a first occurrence. -/
lemma unreplaced_or_replaced (hpattern : pattern ≠ []) (cs : List Char) :
    Unreplaced pattern cs ∨ ∃ front rest, Replaced pattern front rest cs := by
  induction cs with
  | nil => exact .inl ⟨fun _ => rfl, rfl⟩
  | cons c cs ih =>
      by_cases hprefix : pattern.isPrefixOf (c :: cs) = true
      · obtain ⟨rest, hrest⟩ := List.isPrefixOf_iff_prefix.mp hprefix
        rw [← hrest]
        exact .inr ⟨[], rest, rfl, fun replacement => substitute_append hpattern replacement rest,
          fronts_append hpattern rest⟩
      · rcases ih with ⟨hsubstitute, hfronts⟩ | ⟨front, rest, heq, hsubstitute, hfronts⟩
        · refine .inl ⟨fun replacement => ?_, ?_⟩
          · rw [Text.substitute, if_neg hprefix, hsubstitute]
          · rw [Text.fronts, if_neg hprefix, hfronts, List.map_nil]
        · refine .inr ⟨c :: front, rest, by rw [heq]; rfl, fun replacement => ?_, ?_⟩
          · rw [Text.substitute, if_neg hprefix, hsubstitute]
            rfl
          · rw [Text.fronts, if_neg hprefix, hfronts, List.map_cons, List.map_map]
            rfl

/-- Induction along the occurrences that are replaced. -/
@[elab_as_elim]
theorem replacing_induction {motive : List Char → Prop} (hpattern : pattern ≠ [])
    (unreplaced : ∀ cs, Unreplaced pattern cs → motive cs)
    (replaced : ∀ front rest cs, Replaced pattern front rest cs → motive rest → motive cs)
    (cs : List Char) : motive cs := by
  induction hlength : cs.length using Nat.strongRecOn generalizing cs with
  | ind n ih =>
      rcases unreplaced_or_replaced hpattern cs with h | ⟨front, rest, h⟩
      · exact unreplaced cs h
      · refine replaced front rest cs h (ih rest.length ?_ rest rfl)
        have hpos := List.length_pos_of_ne_nil hpattern
        have htotal := congrArg List.length h.eq
        simp only [List.length_append] at htotal
        omega

/-- A text with every occurrence of a pattern replaced that is not empty. -/
lemma toList_replaceAll {s pattern : String} (hpattern : pattern ≠ "") (replacement : String) :
    (replaceAll s pattern replacement).toList =
      substitute pattern.toList replacement.toList 0 s.toList := by
  have hne : pattern.toList ≠ [] := by simpa using hpattern
  obtain ⟨c, cs, hcs⟩ := List.exists_cons_of_ne_nil hne
  rw [replaceAll, hcs, String.toList_ofList]

/-- Where a pattern does not occur, nothing is replaced. -/
lemma replaceAll_of_not_isInfix {s pattern : String} (h : ¬ pattern.toList <:+: s.toList)
    (replacement : String) : replaceAll s pattern replacement = s := by
  have hne : pattern.toList ≠ [] := by
    intro hnil
    exact h (hnil ▸ List.nil_infix)
  rcases unreplaced_or_replaced hne s.toList with hsame | ⟨front, rest, hplace⟩
  · rw [← String.toList_inj, toList_replaceAll (by simpa using hne), hsame.substitute]
  · refine absurd ⟨front, rest, ?_⟩ h
    rw [hplace.eq, List.append_assoc]

end Scaffold.Text
