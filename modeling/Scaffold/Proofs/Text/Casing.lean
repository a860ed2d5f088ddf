import Mathlib.Tactic.Lemma
import Scaffold.Proofs.Text.Classes
import Scaffold.Text.Capital
import Scaffold.Text.Case
import Scaffold.Text.Numeral

/-!
# What changing the case does to the kind of a character

Facts that hold of every text, read off the tables of the case maps and of the classes.

* `mem_mapCase`: a character of an image is the character itself, which no table mentions, or lies in
  one of the ranges of images.
* `isMark`: the characters of ASCII that are neither letters nor digits. They have no case, and
  nothing else becomes one (`lowerChar_of_isMark`, `isMark_of_mem_lowerChar`,
  `isMark_of_mem_upperChar`).
* `isCapital_of_mem_lowerChar`: a numeral in the image of the lower case is no capital.
* `lowerChar_of_mem_lowerChar`: what the lower case of a character holds is its own lower case.
* `forall_mem_toLower`: what is told of all characters of a text in lower case, told of the
  characters of the text one by one.
* `lowerChar_of_mem_toLower`, `toLower_eq_self`: the texts in lower case are those that hold nothing
  but what is its own lower case.
* `isWordChar_of_ascii`, `isDigit_of_ascii`, `upperChar_of_ascii`: what the tables say of ASCII.
-/

namespace Scaffold.Text

variable {c d : Char}

/-! ## The tables of a case map -/

/-- The images under a case map that are not the character itself, as ranges of code points. -/
def imageRanges (expansions : List (Nat × List Nat)) (ranges : List CaseRange) : List CodeRange :=
  expansions.flatMap (fun e => e.2.map fun n => ⟨n, n, 1⟩) ++
    ranges.map fun r => ⟨r.image, r.image + (r.last - r.first), r.step⟩

/-- The characters that a case map changes, as ranges of code points. -/
def changedRanges (expansions : List (Nat × List Nat)) (ranges : List CaseRange) :
    List CodeRange :=
  expansions.map (fun e => ⟨e.1, e.1, 1⟩) ++ ranges.map fun r => ⟨r.first, r.last, r.step⟩

/-- A range holds code points of characters only. -/
def CodeRange.IsValid (r : CodeRange) : Prop :=
  r.last < 0xD800 ∨ 0xDFFF < r.first ∧ r.last < 0x110000

instance (r : CodeRange) : Decidable r.IsValid :=
  inferInstanceAs (Decidable (_ ∨ _))

/-- What is in a range: every so many of the numbers from the first to the last. -/
lemma CodeRange.contains_eq_true_iff {r : CodeRange} {n : Nat} :
    r.contains n = true ↔ r.first ≤ n ∧ n ≤ r.last ∧ (n - r.first) % r.step = 0 := by
  simp [CodeRange.contains, and_assoc]

/-- A code point lies in one of some ranges. -/
def Within (n : Nat) (rs : List CodeRange) : Prop :=
  ∃ r ∈ rs, r.contains n = true

/-- A code point in one of some ranges is not in a set apart from them. -/
lemma Within.contains_eq_false {rs : List CodeRange} {s : CharSet} (h : Within c.toNat rs)
    (hs : CharSet.Apart ⟨rs⟩ s) : s.contains c = false := by
  rw [Bool.eq_false_iff]
  intro hc
  obtain ⟨r, hr, hrc⟩ := h
  obtain ⟨hlow, hhigh, -⟩ := CodeRange.contains_eq_true_iff.mp hrc
  obtain ⟨r', hr', hrc'⟩ := CharSet.exists_range_of_search hc
  have := hs r hr r' hr'
  omega

/-- The search for an image finds it in one of the ranges. -/
lemma CaseRange.exists_of_lookup {n m : Nat} {rs : List CaseRange}
    (h : CaseRange.lookup n rs = some m) :
    ∃ r ∈ rs, r.first ≤ n ∧ n ≤ r.last ∧ (n - r.first) % r.step = 0 ∧
      m = r.image + (n - r.first) := by
  induction rs with
  | nil => cases h
  | cons r rs ih =>
      rw [CaseRange.lookup] at h
      split at h
      · cases h
      · split at h
        · rename_i hlow hin
          exact ⟨r, List.mem_cons_self, by omega, hin.1, hin.2, (Option.some.inj h).symm⟩
        · obtain ⟨r', hr', hn⟩ := ih h
          exact ⟨r', List.mem_cons_of_mem r hr', hn⟩

/-- The code point of a character that is given by its code point. -/
lemma toNat_ofNat_of_isValidChar {n : Nat} (h : n.isValidChar) : (Char.ofNat n).toNat = n := by
  rw [Char.ofNat, dif_pos h]
  rfl

/-- A code point in a range of characters. -/
lemma CodeRange.IsValid.toNat_ofNat {r : CodeRange} (h : r.IsValid) {n : Nat} (hl : r.first ≤ n)
    (hu : n ≤ r.last) : (Char.ofNat n).toNat = n := by
  apply toNat_ofNat_of_isValidChar
  unfold CodeRange.IsValid at h
  unfold Nat.isValidChar
  omega

section tables

variable {expansions : List (Nat × List Nat)} {ranges : List CaseRange}

/-- A case map keeps what its tables do not mention. -/
lemma mapCase_eq_self_or_within :
    mapCase expansions ranges c = [c] ∨ Within c.toNat (changedRanges expansions ranges) := by
  unfold mapCase
  split
  · rename_i n ns h
    obtain ⟨l, l', rfl, -⟩ := List.lookup_eq_some_iff.mp h
    exact .inr ⟨⟨c.toNat, c.toNat, 1⟩, by simp [changedRanges], by simp [CodeRange.contains]⟩
  · split
    · rename_i n h
      obtain ⟨r, hr, hlow, hhigh, hstep, -⟩ := CaseRange.exists_of_lookup h
      refine .inr ⟨⟨r.first, r.last, r.step⟩, ?_, ?_⟩
      · exact List.mem_append_right _ (List.mem_map.mpr ⟨r, hr, rfl⟩)
      · exact CodeRange.contains_eq_true_iff.mpr ⟨hlow, hhigh, hstep⟩
    · exact .inl rfl

/-- A character of an image is the character itself, or lies in a range of images. -/
lemma mem_mapCase (hvalid : ∀ r ∈ imageRanges expansions ranges, r.IsValid)
    (h : d ∈ mapCase expansions ranges c) :
    mapCase expansions ranges c = [c] ∧ d = c ∨ Within d.toNat (imageRanges expansions ranges) := by
  have within {r : CodeRange} {n : Nat} (hr : r ∈ imageRanges expansions ranges)
      (hlow : r.first ≤ n) (hhigh : n ≤ r.last) (hstep : (n - r.first) % r.step = 0)
      (hd : d = Char.ofNat n) : Within d.toNat (imageRanges expansions ranges) := by
    rw [hd, (hvalid r hr).toNat_ofNat hlow hhigh]
    exact ⟨r, hr, CodeRange.contains_eq_true_iff.mpr ⟨hlow, hhigh, hstep⟩⟩
  unfold mapCase at h ⊢
  split at h
  · rename_i n ns hlookup
    obtain ⟨l, l', rfl, -⟩ := List.lookup_eq_some_iff.mp hlookup
    obtain ⟨m, hm, hd⟩ := List.mem_map.mp (List.map_cons (f := Char.ofNat) ▸ h)
    refine .inr (within (r := ⟨m, m, 1⟩) ?_ (Nat.le_refl m) (Nat.le_refl m) (Nat.mod_one _)
      hd.symm)
    exact List.mem_append_left _ (List.mem_flatMap.mpr
      ⟨(c.toNat, n :: ns), by simp, List.mem_map.mpr ⟨m, hm, rfl⟩⟩)
  · split at h
    · rename_i n hlookup
      obtain ⟨r, hr, hlow, hhigh, hstep, rfl⟩ := CaseRange.exists_of_lookup hlookup
      refine .inr (within (r := ⟨r.image, r.image + (r.last - r.first), r.step⟩) ?_ ?_ ?_ ?_
        (List.mem_singleton.mp h))
      · exact List.mem_append_right _ (List.mem_map.mpr ⟨r, hr, rfl⟩)
      · exact Nat.le_add_right r.image _
      · show r.image + (c.toNat - r.first) ≤ r.image + (r.last - r.first)
        omega
      · show (r.image + (c.toNat - r.first) - r.image) % r.step = 0
        rw [Nat.add_sub_cancel_left, hstep]
    · rename_i hnone
      refine .inl ⟨?_, List.mem_singleton.mp h⟩
      simp_all

end tables

/-- The images of the lower case, and those of the upper case, are characters. -/
lemma isValid_images :
    (∀ r ∈ imageRanges lowerExpansions lowerRanges, r.IsValid) ∧
      ∀ r ∈ imageRanges upperExpansions upperRanges, r.IsValid := by
  decide +kernel

/-! ## Marks -/

/-- The characters of ASCII that are neither letters nor digits. -/
def marks : CharSet := .ofBounds [(0x0, 0x2F), (0x3A, 0x40), (0x5B, 0x60), (0x7B, 0x7F)]

/-- A character of ASCII that is neither a letter nor a digit. -/
def isMark (c : Char) : Bool :=
  marks.contains c

/-- No letter and no numeral is a mark, no image of a case is one, and the lower case changes none. -/
lemma apart_marks :
    letters.Apart marks ∧ numerals.Apart marks ∧
      CharSet.Apart ⟨imageRanges upperExpansions upperRanges⟩ marks ∧
      CharSet.Apart ⟨imageRanges lowerExpansions lowerRanges⟩ marks ∧
      CharSet.Apart ⟨changedRanges lowerExpansions lowerRanges⟩ marks := by
  decide +kernel

/-- No letter and no numeral is a mark. -/
lemma isMark_of_isWordChar (h : isWordChar c = true) : isMark c = false := by
  obtain ⟨hletters, hnumerals, -⟩ := apart_marks
  rw [isWordChar, Bool.or_eq_true] at h
  exact h.elim hletters.contains_eq_false hnumerals.contains_eq_false

/-- The upper case of what is no mark holds no mark. -/
lemma isMark_of_mem_upperChar (h : d ∈ upperChar c) (hc : isMark c = false) :
    isMark d = false := by
  obtain ⟨-, -, hapart, -⟩ := apart_marks
  rcases mem_mapCase isValid_images.2 h with ⟨-, rfl⟩ | hd
  · exact hc
  · exact hd.contains_eq_false hapart

/-- The lower case of what is no mark holds no mark. -/
lemma isMark_of_mem_lowerChar (h : d ∈ lowerChar c) (hc : isMark c = false) :
    isMark d = false := by
  obtain ⟨-, -, -, hapart, -⟩ := apart_marks
  rcases mem_mapCase isValid_images.1 h with ⟨-, rfl⟩ | hd
  · exact hc
  · exact hd.contains_eq_false hapart

/-- A mark is its own lower case. -/
lemma lowerChar_of_isMark (hc : isMark c = true) : lowerChar c = [c] := by
  obtain ⟨-, -, -, -, hapart⟩ := apart_marks
  rcases mapCase_eq_self_or_within with h | h
  · exact h
  · exact absurd hc (by simp [isMark, h.contains_eq_false hapart])

/-! ## Capital numerals -/

/-- The capital numerals, which are roman. -/
def romanCapitals : CharSet := .ofBounds [(0x2160, 0x216F)]

/-- A numeral that is a capital is roman. -/
lemma romanCapitals_of_isNumeral (hn : isNumeral c = true) (hc : isCapital c = true) :
    0x2160 ≤ c.toNat ∧ c.toNat ≤ 0x216F := by
  have hranges : (numerals.ranges.all fun r => capitals.ranges.all fun r' =>
      r.last.blt r'.first || r'.last.blt r.first ||
        r'.first == 0x2160 && r'.last == 0x216F) = true := by
    decide +kernel
  simp only [List.all_eq_true, Bool.or_eq_true, Bool.and_eq_true, Nat.blt_eq, beq_iff_eq] at hranges
  obtain ⟨r, hr, hrc⟩ := CharSet.exists_range_of_search hn
  obtain ⟨r', hr', hrc'⟩ := CharSet.exists_range_of_search hc
  have := hranges r hr r' hr'
  omega

/-- A numeral in the lower case of a character is no capital. -/
lemma isCapital_of_mem_lowerChar (h : d ∈ lowerChar c) (hd : isNumeral d = true) :
    isCapital d = false := by
  have hapart : CharSet.Apart ⟨imageRanges lowerExpansions lowerRanges⟩ romanCapitals := by
    decide +kernel
  have hchanged : ∀ n < 16, lowerChar (Char.ofNat (0x2160 + n)) ≠ [Char.ofNat (0x2160 + n)] := by
    decide +kernel
  rw [Bool.eq_false_iff]
  intro hcapital
  obtain ⟨hlow, hhigh⟩ := romanCapitals_of_isNumeral hd hcapital
  rcases mem_mapCase isValid_images.1 h with ⟨hself, rfl⟩ | hwithin
  · have := hchanged (d.toNat - 0x2160) (by omega)
    rw [Nat.add_sub_cancel' hlow, Char.ofNat_toNat] at this
    exact this hself
  · obtain ⟨r, hr, hrd⟩ := hwithin
    obtain ⟨hfirst, hlast, -⟩ := CodeRange.contains_eq_true_iff.mp hrd
    have := hapart r hr ⟨0x2160, 0x216F, 1⟩ List.mem_cons_self
    simp only at this
    omega

/-! ## Small characters -/

/-- No code point lies in both ranges: they lie apart, or the first one lies in the gaps of the
second. -/
def CodeRange.misses (r r' : CodeRange) : Bool :=
  r.last.blt r'.first || r'.last.blt r.first ||
    (r.step == 2 || r.first == r.last) && r'.step == 2 && (r.first + r'.first) % 2 == 1

/-- Ranges that miss each other have no number in common. -/
lemma CodeRange.not_contains_of_misses {r r' : CodeRange} {n : Nat} (h : r.misses r' = true)
    (hr : r.contains n = true) : ¬ r'.contains n = true := by
  simp only [CodeRange.misses, Bool.or_eq_true, Bool.and_eq_true, Nat.blt_eq, beq_iff_eq] at h
  rw [CodeRange.contains_eq_true_iff] at hr ⊢
  rintro ⟨hlow, hhigh, hstep⟩
  rcases h with (h | h) | ⟨⟨hwidth, hgaps⟩, hparity⟩
  · omega
  · omega
  · rw [hgaps] at hstep
    rcases hwidth with hwidth | hsingle
    · rw [hwidth] at hr
      omega
    · omega

/-- The lower case changes no image of its own, and none of its images is a blank. -/
lemma lowerImages_miss :
    ((imageRanges lowerExpansions lowerRanges).all fun r =>
        (changedRanges lowerExpansions lowerRanges).all fun r' => r.misses r') = true ∧
      CharSet.Apart ⟨imageRanges lowerExpansions lowerRanges⟩ blanks := by
  decide +kernel

/-- What the lower case of a character holds is its own lower case. -/
lemma lowerChar_of_mem_lowerChar (h : d ∈ lowerChar c) : lowerChar d = [d] := by
  have hmisses := lowerImages_miss.1
  simp only [List.all_eq_true] at hmisses
  rcases mem_mapCase isValid_images.1 h with ⟨hself, rfl⟩ | ⟨r, hr, hrd⟩
  · exact hself
  · rcases mapCase_eq_self_or_within with hself | ⟨r', hr', hrd'⟩
    · exact hself
    · exact absurd hrd' (CodeRange.not_contains_of_misses (hmisses r hr r' hr') hrd)

/-- A blank in the lower case of a character is the character. -/
lemma eq_of_isBlank_of_mem_lowerChar (h : d ∈ lowerChar c) (hd : isBlank d = true) : d = c := by
  rcases mem_mapCase isValid_images.1 h with ⟨-, rfl⟩ | hwithin
  · rfl
  · rw [isBlank, hwithin.contains_eq_false lowerImages_miss.2] at hd
    cases hd

/-! ## Whole texts -/

/-- The lower case of the capital sigma is one of the small ones, which are their own lower case. -/
lemma lowerChar_sigmas :
    lowerChar 'Σ' = ['σ'] ∧ lowerChar 'σ' = ['σ'] ∧ lowerChar 'ς' = ['ς'] := by
  decide

/-- What holds of all characters of a text in lower case, if it does not tell the two forms of the
small sigma apart. -/
lemma forall_mem_toLower {p : Char → Prop} (hsigma : p 'ς' ↔ p 'σ') (s : String) :
    (∀ d ∈ (toLower s).toList, p d) ↔ ∀ c ∈ s.toList, ∀ d ∈ lowerChar c, p d := by
  have hafter (before cs : List Char) :
      (∀ d ∈ lowerAfter before cs, p d) ↔ ∀ c ∈ cs, ∀ d ∈ lowerChar c, p d := by
    induction cs generalizing before with
    | nil => simp [lowerAfter]
    | cons c cs ih =>
        rw [lowerAfter, List.forall_mem_append, List.forall_mem_cons, ih]
        refine and_congr ?_ Iff.rfl
        split
        · rename_i hc
          rw [hc, lowerChar_sigmas.1, List.forall_mem_singleton, List.forall_mem_singleton, lowerSigma]
          split
          · exact hsigma
          · exact Iff.rfl
        · exact Iff.rfl
  rw [toLower, String.toList_ofList]
  exact hafter [] s.toList

/-- A text in lower case holds nothing but what is its own lower case. -/
lemma lowerChar_of_mem_toLower {s : String} (h : d ∈ (toLower s).toList) : lowerChar d = [d] :=
  (forall_mem_toLower (p := fun d => lowerChar d = [d])
    (iff_of_true lowerChar_sigmas.2.2 lowerChar_sigmas.2.1) s).mpr
      (fun _ _ _ => lowerChar_of_mem_lowerChar) d h

/-- A text that holds nothing but what is its own lower case is in lower case. No sigma in it is a
capital, so that none looks at what stands around it. -/
lemma toLower_eq_self {s : String} (h : ∀ c ∈ s.toList, lowerChar c = [c]) : toLower s = s := by
  have hafter (before cs : List Char) (hcs : ∀ c ∈ cs, lowerChar c = [c]) :
      lowerAfter before cs = cs := by
    induction cs generalizing before with
    | nil => rfl
    | cons c cs ih =>
        rw [List.forall_mem_cons] at hcs
        have hsigma : c ≠ 'Σ' := by
          rintro rfl
          have hsmall := lowerChar_sigmas.1.symm.trans hcs.1
          exact absurd hsmall (by decide)
        rw [lowerAfter, if_neg hsigma, hcs.1, ih (c :: before) hcs.2]
        rfl
  rw [toLower, hafter [] s.toList h, String.ofList_toList]

/-! ## ASCII -/

/-- What holds of all characters of ASCII, taken one by one. -/
lemma forall_ascii {p : Char → Prop} (h : ∀ n < 128, p (Char.ofNat n)) (hc : c.toNat < 128) :
    p c := by
  have hofNat := h c.toNat hc
  rwa [Char.ofNat_toNat] at hofNat

/-- The tables say of a character what is said of it without them. -/
def ToldPlainly (c : Char) : Prop :=
  isWordChar c = c.isAlphanum ∧ isDigit c = c.isDigit ∧ upperChar c = [c.toUpper] ∧
    (c.isAlphanum = true → c.toUpper.isUpper = true ∨ c.toUpper.isDigit = true) ∧
      (c.isUpper = true → c.isDigit = false ∧ c.toUpper = c)

instance (c : Char) : Decidable (ToldPlainly c) :=
  inferInstanceAs (Decidable (_ ∧ _))

/-- The case of an ASCII character is told from the character alone. -/
lemma toldPlainly_of_ascii (hc : c.toNat < 128) : ToldPlainly c :=
  forall_ascii (by decide +kernel) hc

/-- The word characters of ASCII are its letters and digits. -/
lemma isWordChar_of_ascii (hc : c.toNat < 128) : isWordChar c = c.isAlphanum :=
  (toldPlainly_of_ascii hc).1

/-- The ASCII digits are the digits in this range. -/
lemma isDigit_of_ascii (hc : c.toNat < 128) : isDigit c = c.isDigit :=
  (toldPlainly_of_ascii hc).2.1

/-- ASCII characters have a plain upper case. -/
lemma upperChar_of_ascii (hc : c.toNat < 128) : upperChar c = [c.toUpper] :=
  (toldPlainly_of_ascii hc).2.2.1

/-- Letters and digits, as they are told without the tables, are characters of ASCII. -/
lemma ascii_of_isAlphanum (h : c.isAlphanum = true) : c.toNat < 128 := by
  have hlast {z : Char} (hz : z.toNat < 128) (hle : c.val ≤ z.val) : c.toNat < 128 :=
    Nat.lt_of_le_of_lt (UInt32.le_iff_toNat_le.mp hle) hz
  rcases Bool.or_eq_true_iff.mp h with halpha | hdigit
  · rcases Bool.or_eq_true_iff.mp halpha with hupper | hlower
    · exact hlast (z := 'Z') (by decide) (of_decide_eq_true hupper).2
    · exact hlast (z := 'z') (by decide) (of_decide_eq_true (Bool.and_eq_true_iff.mp hlower).2)
  · exact hlast (z := '9') (by decide) (of_decide_eq_true (Bool.and_eq_true_iff.mp hdigit).2)

/-- The upper case of a letter or digit of ASCII is a capital or a digit. -/
lemma isUpper_or_isDigit_toUpper (h : c.isAlphanum = true) :
    c.toUpper.isUpper = true ∨ c.toUpper.isDigit = true :=
  (toldPlainly_of_ascii (ascii_of_isAlphanum h)).2.2.2.1 h

/-- A capital of ASCII is a letter, no digit, and its own upper case. -/
lemma of_isUpper (h : c.isUpper = true) :
    c.isAlphanum = true ∧ c.isDigit = false ∧ c.toUpper = c := by
  have halphanum : c.isAlphanum = true :=
    Bool.or_eq_true_iff.mpr (.inl (Bool.or_eq_true_iff.mpr (.inl h)))
  exact ⟨halphanum, (toldPlainly_of_ascii (ascii_of_isAlphanum halphanum)).2.2.2.2 h⟩

end Scaffold.Text
