import Mathlib.Data.List.Infix
import Mathlib.Data.List.TakeWhile
import Mathlib.Tactic.Lemma
import Scaffold.Proofs.FileSystem.Naming
import Scaffold.Proofs.Text.Casing
import Scaffold.Settings.Basic

/-!
# The names that follow from the name of a project

* `isMark_of_mem_toModuleName`, `isPlainName_toModuleName`: whatever the project is called, its module
  name has no characters but letters, numerals and what they become in upper case. It is the name of
  an entry, and nothing in it can be taken for a directive.
* `Normalises`: a character that a package name can be made from.
* `isPackageName_toPackageName_iff`: the names that a package name can be made from.
* `isPackageName_packageName_iff`: the settings whose package name is one.
-/

namespace Scaffold

open Text

namespace Project

variable {c : Char} {cs : List Char} {name : String}

/-! ## Module names -/

/-- Words that are joined hold no mark. -/
lemma isMark_of_mem_joinWords {wordStart : Bool} (h : c ∈ joinWords wordStart cs) :
    isMark c = false := by
  induction cs generalizing wordStart with
  | nil => simp [joinWords] at h
  | cons d cs ih =>
      rw [joinWords] at h
      split at h
      · rename_i hword
        have hd := isMark_of_isWordChar hword
        rcases List.mem_append.mp h with h | h
        · split at h
          · exact isMark_of_mem_upperChar h hd
          · rwa [List.mem_singleton.mp h]
        · exact ih h
      · exact ih h

/-- A module name holds no mark. -/
lemma isMark_of_mem_toModuleName (h : c ∈ (toModuleName name).toList) : isMark c = false := by
  have hall : defaultModuleName.toList.all (fun d => !isMark d) = true := by decide
  have hdefault : ∀ d ∈ defaultModuleName.toList, isMark d = false := by simpa using hall
  unfold toModuleName at h
  split at h
  · exact hdefault c h
  · rename_i d ds hjoin
    have hwords : c ∈ d :: ds → isMark c = false := by
      rw [← hjoin]
      exact isMark_of_mem_joinWords
    split at h
    · rw [String.toList_append, String.toList_ofList] at h
      exact (List.mem_append.mp h).elim (hdefault c) hwords
    · rw [String.toList_ofList] at h
      exact hwords h

/-- No mark stands in a module name. -/
lemma notMem_toModuleName (hc : isMark c = true) (name : String) :
    c ∉ (toModuleName name).toList := by
  intro h
  rw [isMark_of_mem_toModuleName h] at hc
  cases hc

/-- A module name is the name of an entry, whatever the project is called. -/
lemma isPlainName_toModuleName (name : String) : IsPlainName (toModuleName name) := by
  have hdot : '.' ∉ (toModuleName name).toList := notMem_toModuleName (by decide) name
  constructor
  · exact toModuleName_ne_empty name
  · intro h
    exact hdot (by simp [h])
  · intro h
    exact hdot (by simp [h])
  · exact notMem_toModuleName (by decide) name
  · exact notMem_toModuleName (by decide) name

/-! ## Package names -/

/-- What becomes of the character in a package name, if it stays at all, is a character of package
names. -/
def Normalises (c : Char) : Prop :=
  isSeparator c = true ∨ isDropped c = true ∨ ∀ d ∈ lowerChar c, isPackageChar d = true

instance (c : Char) : Decidable (Normalises c) :=
  inferInstanceAs (Decidable (_ ∨ _ ∨ _))

/-- A decimal digit is a numeral. -/
lemma isNumeral_of_isDigit (h : isDigit c = true) : isNumeral c = true := by
  have hranges : (digits.ranges.all fun r => numerals.ranges.any fun r' =>
      r'.first.ble r.first && r.last.ble r'.last && r'.step == 1) = true := by
    decide +kernel
  simp only [List.all_eq_true, List.any_eq_true, Bool.and_eq_true, Nat.ble_eq, beq_iff_eq]
    at hranges
  have hchain : (numerals.ranges.map CodeRange.first).IsChain (· ≤ ·) := by decide +kernel
  have hsorted : numerals.Sorted := List.pairwise_map.mp (List.isChain_iff_pairwise.mp hchain)
  obtain ⟨r, hr, hrc⟩ := CharSet.exists_range_of_search h
  obtain ⟨r', hr', ⟨hlow, hhigh⟩, hstep⟩ := hranges r hr
  refine (CharSet.contains_iff hsorted).mpr ⟨r', hr', ?_⟩
  simp only [CodeRange.contains, hstep, Nat.mod_one, Bool.and_eq_true, decide_eq_true_eq]
  exact ⟨⟨by omega, by omega⟩, rfl⟩

/-- Separators and characters that are dropped are marks. -/
lemma isMark_of_isSeparator_or_isDropped (h : isSeparator c = true ∨ isDropped c = true) :
    isMark c = true := by
  simp only [isSeparator, isDropped, Bool.or_eq_true, beq_iff_eq] at h
  rcases h with (((rfl | rfl) | rfl) | rfl) | ((rfl | rfl) | rfl) <;> decide

/-- What a text has to hold to be left as a package name, character by character. -/
lemma normalises_iff : Normalises c ↔
    ∀ d ∈ lowerChar c, isSeparator d = true ∨ isDropped d = true ∨ isPackageChar d = true := by
  unfold Normalises
  by_cases hc : isMark c = true
  · rw [lowerChar_of_isMark hc]
    simp
  · -- neither the character nor its lower case is a separator or dropped
    have hc' : isMark c = false := by simpa using hc
    have key {d : Char} (hd : isMark d = false) : ¬ (isSeparator d = true ∨ isDropped d = true) := by
      intro h
      rw [isMark_of_isSeparator_or_isDropped h] at hd
      cases hd
    rw [← or_assoc, or_iff_right (key hc')]
    refine forall₂_congr fun d hd => ?_
    rw [← or_assoc, or_iff_right (key (isMark_of_mem_lowerChar hd hc'))]

/-- The characters that are left of a text are characters of package names exactly when those of the
text are separators, dropped, or such characters. A numeral that is cut off at the start would do. -/
lemma forall_mem_packageChars (hnumeral : ∀ d ∈ cs, isNumeral d = true → isCapital d = false) :
    (∀ d ∈ packageChars cs, isPackageChar d = true) ↔
      ∀ d ∈ cs, isSeparator d = true ∨ isDropped d = true ∨ isPackageChar d = true := by
  have hhyphen : isPackageChar '-' = true := by decide
  unfold packageChars
  generalize hkept : ((cs.map fun c => if isSeparator c then '-' else c).filter
    fun c => !isDropped c) = kept
  have hmem (d : Char) : d ∈ kept ↔
      (d = '-' ∧ ∃ c ∈ cs, isSeparator c = true) ∨
        d ∈ cs ∧ isSeparator d = false ∧ isDropped d = false := by
    subst hkept
    simp only [List.mem_filter, List.mem_map, Bool.not_eq_true']
    constructor
    · rintro ⟨⟨c, hc, rfl⟩, hdropped⟩
      by_cases hsep : isSeparator c = true
      · exact .inl ⟨by simp [hsep], c, hc, hsep⟩
      · rw [if_neg hsep] at hdropped ⊢
        exact .inr ⟨hc, by simpa using hsep, hdropped⟩
    · rintro (⟨rfl, c, hc, hsep⟩ | ⟨hd, hsep, hdropped⟩)
      · exact ⟨⟨c, hc, by simp [hsep]⟩, by decide⟩
      · exact ⟨⟨d, hd, by simp [hsep]⟩, hdropped⟩
  constructor
  · intro h d hd
    by_cases hsep : isSeparator d = true
    · exact .inl hsep
    by_cases hdropped : isDropped d = true
    · exact .inr (.inl hdropped)
    have hd' : d ∈ kept := (hmem d).mpr (.inr ⟨hd, by simpa using hsep, by simpa using hdropped⟩)
    rw [← List.takeWhile_append_dropWhile (p := isLeadingJunk) (l := kept)] at hd'
    rcases List.mem_append.mp hd' with hjunk | hrest
    · -- what is cut off at the start is a numeral or a hyphen
      have := List.mem_takeWhile_imp hjunk
      simp only [isLeadingJunk, Bool.or_eq_true, beq_iff_eq] at this
      rcases this with hn | rfl
      · refine .inr (.inr ?_)
        simp [isPackageChar, hnumeral d hd hn, isWordChar, hn]
      · exact .inr (.inr hhyphen)
    · exact .inr (.inr (h d hrest))
  · intro h d hd
    have hd' : d ∈ kept := (List.dropWhile_suffix isLeadingJunk).subset hd
    rcases (hmem d).mp hd' with ⟨rfl, -⟩ | ⟨hd, hsep, hdropped⟩
    · exact hhyphen
    · rcases h d hd with h | h | h
      · rw [hsep] at h
        cases h
      · rw [hdropped] at h
        cases h
      · exact h

/-- What is left of a text does not begin with what is cut off there. -/
lemma isLeadingJunk_of_packageChars {ds : List Char} (h : packageChars cs = c :: ds) :
    isLeadingJunk c = false := by
  unfold packageChars at h
  have hhead := List.head?_dropWhile_not isLeadingJunk
    ((cs.map fun c => if isSeparator c then '-' else c).filter fun c => !isDropped c)
  simpa [h] using hhead

/-- A package name that is made is one exactly when it has no other characters than package names
have: it never begins with a digit, and it is not empty. -/
lemma isPackageName_toPackageName :
    isPackageName (toPackageName name) = true ↔
      ∀ d ∈ packageChars (toLower (strip name)).toList, isPackageChar d = true := by
  unfold toPackageName
  split
  · rename_i hnil
    rw [hnil]
    simp only [List.not_mem_nil, false_imp_iff, implies_true, iff_true]
    decide
  · rename_i hne
    cases hchars : packageChars (toLower (strip name)).toList with
    | nil => exact absurd hchars hne
    | cons c cs =>
        have hdigit : isDigit c = false := by
          rw [Bool.eq_false_iff]
          intro hd
          have hjunk := isLeadingJunk_of_packageChars hchars
          simp [isLeadingJunk, isNumeral_of_isDigit hd] at hjunk
        simp [isPackageName, hdigit]

/-- The package name of a text is a valid one exactly when every character of the text, blanks at its
ends aside, is a separator, is dropped, or has a lower case that package names may hold. -/
lemma isPackageName_toPackageName_iff :
    isPackageName (toPackageName name) = true ↔ ∀ c ∈ (strip name).toList, Normalises c := by
  have hlower := forall_mem_toLower
    (p := fun d => isSeparator d = true ∨ isDropped d = true ∨ isPackageChar d = true)
    (by decide) (strip name)
  have hcapital := (forall_mem_toLower (p := fun d => isNumeral d = true → isCapital d = false)
    (by decide) (strip name)).mpr fun c _ d hd => isCapital_of_mem_lowerChar hd
  rw [isPackageName_toPackageName, forall_mem_packageChars hcapital, hlower]
  simp only [normalises_iff]

end Project

namespace Settings

open Project

/-- **The settings whose package name is valid.** The package name that follows from the name of the
project is a valid one exactly when that name is one as it stands, or each of its characters, blanks
at the ends aside, is a separator, is dropped, or has a lower case that package names may hold. -/
theorem isPackageName_packageName_iff (s : Settings) :
    isPackageName s.packageName = true ↔
      isPackageName s.displayName = true ∨ ∀ c ∈ (strip s.displayName).toList, Normalises c := by
  unfold packageName
  by_cases h : isPackageName s.displayName = true
  · simp [h]
  · rw [if_neg h, isPackageName_toPackageName_iff]
    simp [h]

/-- The package name of a project `a!b` is `a!b`, which is not valid. -/
theorem packageName_of_exclamation :
    ({ projectName := some "a!b", workingDirectory := ⟨.root, ["work"]⟩ } : Settings).packageName =
        "a!b" ∧
      isPackageName "a!b" = false := by
  decide

end Settings

end Scaffold
