import Scaffold.Proofs.Project.Identifier
import Scaffold.Proofs.Project.Naming

/-!
# Making a package name twice

A package name that is made from a text stays as it is when one is made from it, unless it has got
blanks at its ends. It cannot get any from a text whose blanks are spaces, since these become hyphens.

* `Settled`: a text that loses nothing on the way to a package name but blanks at its ends.
* `settled_toPackageName`, `Settled.toPackageName_eq`: every package name that is made is such a text,
  and such a text without blanks at its ends is its own package name.
* `toPackageName_toPackageName`: making a package name twice is making it once.
-/

namespace Scaffold

namespace Text

variable {c : Char} {s : String}

/-! ## Blanks -/

/-- Nothing is stripped from a text without blanks. -/
lemma strip_eq_self (h : ∀ c ∈ s.toList, isBlank c = false) : strip s = s := by
  have hkeeps {cs : List Char} (hcs : ∀ c ∈ cs, isBlank c = false) : cs.dropWhile isBlank = cs := by
    cases cs with
    | nil => rfl
    | cons c cs => exact List.dropWhile_cons_of_neg (by simp [hcs c List.mem_cons_self])
  have hright : ∀ c ∈ s.toList.reverse, isBlank c = false :=
    fun c hc => h c (List.mem_reverse.mp hc)
  rw [strip, stripLeft, hkeeps h, stripRight, hkeeps hright, List.reverse_reverse,
    String.ofList_toList]

/-- Stripping adds nothing to a text. -/
lemma mem_of_mem_strip (h : c ∈ (strip s).toList) : c ∈ s.toList := by
  rw [strip, String.toList_ofList] at h
  have hleft := (List.dropWhile_suffix isBlank).subset (List.mem_reverse.mp h)
  exact (List.dropWhile_suffix isBlank).subset (List.mem_reverse.mp hleft)

end Text

namespace Project

open Text

variable {c : Char} {cs : List Char} {name : String}

/-! ## What a package name is made of -/

/-- What is left of some characters are characters of theirs, and hyphens. -/
lemma mem_of_mem_packageChars (h : c ∈ packageChars cs) : c = '-' ∨ c ∈ cs := by
  have hkept := (List.dropWhile_suffix isLeadingJunk).subset h
  obtain ⟨d, hd, rfl⟩ := List.mem_map.mp (List.mem_of_mem_filter hkept)
  split
  · exact .inl rfl
  · exact .inr hd

/-- A package name that is made is the default, or what is left of the text in lower case. -/
lemma toPackageName_cases (name : String) :
    toPackageName name = defaultPackageName ∨
      (toPackageName name).toList = packageChars (toLower (strip name)).toList := by
  unfold toPackageName
  split
  · exact .inl rfl
  · exact .inr String.toList_ofList

/-! ## Texts that stay as they are -/

/-- A text that loses nothing on the way to a package name, except for blanks at its ends. It is in
lower case, has no separators and nothing that is dropped, and begins with something else than a
numeral or a hyphen. -/
structure Settled (name : String) : Prop where
  ne_empty : name ≠ ""
  lower : ∀ c ∈ name.toList, lowerChar c = [c]
  kept : ∀ c ∈ name.toList, isSeparator c = false ∧ isDropped c = false
  begins : ∀ c ∈ name.toList.head?, isLeadingJunk c = false

/-- The default package name is settled, and has no blanks. -/
lemma settled_default :
    Settled defaultPackageName ∧ ∀ c ∈ defaultPackageName.toList, isBlank c = false := by
  have hall : (defaultPackageName.toList.all fun c => lowerChar c = [c] &&
      !isSeparator c && !isDropped c && !isBlank c) = true := by
    decide
  simp only [List.all_eq_true, Bool.and_eq_true, decide_eq_true_eq, Bool.not_eq_true'] at hall
  refine ⟨⟨by decide, fun c hc => (hall c hc).1.1.1, fun c hc => ?_, ?_⟩, fun c hc => (hall c hc).2⟩
  · exact ⟨(hall c hc).1.1.2, (hall c hc).1.2⟩
  · rintro c hc
    obtain rfl : 'v' = c := Option.some.inj hc
    decide

/-- Every package name that is made is settled. -/
lemma settled_toPackageName (name : String) : Settled (toPackageName name) := by
  rcases toPackageName_cases name with hdefault | hchars
  · rw [hdefault]
    exact settled_default.1
  · refine ⟨toPackageName_ne_empty name, fun c hc => ?_, fun c hc => ?_, fun c hc => ?_⟩
    · rw [hchars] at hc
      rcases mem_of_mem_packageChars hc with rfl | hlower
      · exact lowerChar_of_isMark (by decide)
      · exact lowerChar_of_mem_toLower hlower
    · have hnot {p : Prop} (hp : p → isSeparator c = true ∨ isDropped c = true) : ¬ p :=
        fun h => notMem_toPackageName (hp h) name hc
      exact ⟨Bool.eq_false_iff.mpr (hnot .inl), Bool.eq_false_iff.mpr (hnot .inr)⟩
    · obtain ⟨cs, hcs⟩ := List.head?_eq_some_iff.mp hc
      exact isLeadingJunk_of_packageChars (hchars.symm.trans hcs)

/-- Nothing is left out of the characters of a settled text. -/
lemma Settled.packageChars_eq (h : Settled name) : packageChars name.toList = name.toList := by
  have hmap : (name.toList.map fun c => if isSeparator c then '-' else c) = name.toList := by
    refine (List.map_congr_left fun c hc => ?_).trans (List.map_id _)
    rw [(h.kept c hc).1]
    rfl
  have hfilter : (name.toList.filter fun c => !isDropped c) = name.toList :=
    List.filter_eq_self.mpr fun c hc => by rw [(h.kept c hc).2]; rfl
  rw [packageChars, hmap, hfilter]
  cases hname : name.toList with
  | nil => rfl
  | cons c cs => exact List.dropWhile_cons_of_neg (by simp [h.begins c (by simp [hname])])

/-- A settled text without blanks at its ends is its own package name. -/
lemma Settled.toPackageName_eq (h : Settled name) (hstrip : strip name = name) :
    toPackageName name = name := by
  have hne : name.toList ≠ [] := fun hnil => h.ne_empty (String.toList_eq_nil_iff.mp hnil)
  rw [toPackageName, hstrip, toLower_eq_self h.lower, h.packageChars_eq]
  split
  · exact absurd ‹_› hne
  · exact String.ofList_toList

/-! ## Twice -/

/-- A package name has no blanks if the text that it is made from has none but spaces. -/
lemma isBlank_of_mem_toPackageName (hname : ∀ c ∈ name.toList, isBlank c = true → c = ' ')
    (h : c ∈ (toPackageName name).toList) : isBlank c = false := by
  have hspace : ∀ d ∈ (toLower (strip name)).toList, isBlank d = true → d = ' ' := by
    refine (forall_mem_toLower (p := fun d => isBlank d = true → d = ' ') (by decide) _).mpr ?_
    intro e he d hd hblank
    obtain rfl := eq_of_isBlank_of_mem_lowerChar hd hblank
    exact hname d (mem_of_mem_strip he) hblank
  rw [Bool.eq_false_iff]
  intro hblank
  rcases toPackageName_cases name with hdefault | hchars
  · rw [hdefault] at h
    rw [settled_default.2 c h] at hblank
    cases hblank
  · rw [hchars] at h
    rcases mem_of_mem_packageChars h with rfl | hlower
    · exact absurd hblank (by decide)
    · -- a space is a separator, and would have become a hyphen
      obtain rfl := hspace c hlower hblank
      exact notMem_packageChars (.inl (by decide)) h

/-- **Making a package name twice is making it once**, for every text that has no blanks but spaces.
The name is not empty, and begins neither with a hyphen nor with a numeral. -/
theorem toPackageName_toPackageName (hname : ∀ c ∈ name.toList, isBlank c = true → c = ' ') :
    toPackageName (toPackageName name) = toPackageName name ∧
      ∃ c cs, (toPackageName name).toList = c :: cs ∧ c ≠ '-' ∧ isNumeral c = false := by
  have hsettled := settled_toPackageName name
  constructor
  · exact hsettled.toPackageName_eq
      (strip_eq_self fun c hc => isBlank_of_mem_toPackageName hname hc)
  · obtain ⟨c, cs, hcs⟩ : ∃ c cs, (toPackageName name).toList = c :: cs :=
      List.exists_cons_of_ne_nil fun hnil => hsettled.ne_empty (String.toList_eq_nil_iff.mp hnil)
    have hbegins := hsettled.begins c (by simp [hcs])
    rw [isLeadingJunk, Bool.or_eq_false_iff, beq_eq_false_iff_ne] at hbegins
    exact ⟨c, cs, hcs, hbegins.2, hbegins.1⟩

/-- A capital sigma at the end of a word, and a numeral, a dot and separators where they are in the
way. -/
theorem toPackageName_toPackageName_sigma :
    (∀ c ∈ " 2. ΟΔΟΣ ~İx ".toList, isBlank c = true → c = ' ') ∧
      toPackageName " 2. ΟΔΟΣ ~İx " = "οδος--i̇x" ∧
        toPackageName (toPackageName " 2. ΟΔΟΣ ~İx ") = toPackageName " 2. ΟΔΟΣ ~İx " ∧
          ∃ c cs, (toPackageName " 2. ΟΔΟΣ ~İx ").toList = c :: cs ∧ c ≠ '-' ∧
            isNumeral c = false := by
  have hname : ∀ c ∈ " 2. ΟΔΟΣ ~İx ".toList, isBlank c = true → c = ' ' := by
    have hall : (" 2. ΟΔΟΣ ~İx ".toList.all fun c => !isBlank c || c == ' ') = true := by
      decide
    intro c hc hblank
    have hc' := List.all_eq_true.mp hall c hc
    rw [hblank] at hc'
    exact eq_of_beq hc'
  exact ⟨hname, by decide, toPackageName_toPackageName hname⟩

/-- A tab that comes to stand at the front is stripped the second time only. -/
example : toPackageName "1\ta" = "\ta" ∧ toPackageName "\ta" = "a" := by decide

end Project

end Scaffold
