import Mathlib.Tactic.Lemma
import Scaffold.Project.Name
import Scaffold.Proofs.Text.Casing

/-!
# Module names and the words of a text

A module name is made from the words of a text alone. What stands between the words, and how much of
it there is, makes no difference.

* `Spelled`: some characters spell a list of words, which are their longest runs of word characters.
  `exists_spelled` says that all characters spell one.
* `joinWords_of_spelled`: the words are put together one by one, each with its first character in
  upper case.
* `joinWords_append_gap`: a gap between two parts is all that the second needs to know of the first.
* `toModuleName_of_ascii`, `toModuleName_eq_self`: what a module name looks like that is made from a
  text in ASCII, and that such a name is its own module name.
* `toModuleName_of_words`: all of this in one statement.
-/

namespace Scaffold.Project

open Text

variable {cs gap word rest : List Char} {ws : List (List Char)} {wordStart : Bool} {c : Char}
  {name other : String}

/-! ## Words -/

/-- Characters that stand between words. -/
def IsGap (cs : List Char) : Prop :=
  ∀ c ∈ cs, isWordChar c = false

/-- Characters that form a word. -/
structure IsWord (cs : List Char) : Prop where
  ne_nil : cs ≠ []
  wordChars : ∀ c ∈ cs, isWordChar c = true

/-- What follows a word does not go on with it. -/
def EndsWord (rest : List Char) : Prop :=
  ∀ c ∈ rest.head?, isWordChar c = false

-- each of these goes through the list; what is said of all characters could also be tested on all of them
instance (cs : List Char) : Decidable (IsGap cs) :=
  decidable_of_iff (cs.all fun c => !isWordChar c) (by simp [IsGap])

instance (cs : List Char) : Decidable (IsWord cs) :=
  decidable_of_iff (cs ≠ [] ∧ cs.all isWordChar)
    ⟨fun ⟨h₁, h₂⟩ => ⟨h₁, List.all_eq_true.mp h₂⟩, fun ⟨h₁, h₂⟩ => ⟨h₁, List.all_eq_true.mpr h₂⟩⟩

instance (rest : List Char) : Decidable (EndsWord rest) :=
  decidable_of_iff (rest.head?.all fun c => !isWordChar c) (by cases rest <;> simp [EndsWord])

/-- Some characters spell some words: these are their longest runs of word characters, in order. -/
inductive Spelled : List Char → List (List Char) → Prop
  | nil {gap : List Char} : IsGap gap → Spelled gap []
  | cons {gap word rest : List Char} {ws : List (List Char)} :
    IsGap gap → IsWord word → EndsWord rest → Spelled rest ws →
      Spelled (gap ++ (word ++ rest)) (word :: ws)

/-- There may be no gap. -/
lemma isGap_nil : IsGap [] :=
  List.forall_mem_nil _

/-- A character in front that is part of no word changes no word. -/
lemma Spelled.cons_gap (h : Spelled cs ws) (hc : isWordChar c = false) : Spelled (c :: cs) ws := by
  have hcons {gap : List Char} (hgap : IsGap gap) : IsGap (c :: gap) :=
    List.forall_mem_cons.mpr ⟨hc, hgap⟩
  cases h with
  | nil hgap => exact .nil (hcons hgap)
  | cons hgap hword hends hrest => exact .cons (hcons hgap) hword hends hrest

/-- A word character in front begins a word, or belongs to the first one. -/
lemma Spelled.exists_cons_word (h : Spelled cs ws) (hc : isWordChar c = true) :
    ∃ ws', Spelled (c :: cs) ws' := by
  have hsingle : IsWord [c] := ⟨List.cons_ne_nil c [], by simpa using hc⟩
  cases h with
  | nil hgap =>
      have hends : EndsWord cs := fun d hd => hgap d (List.mem_of_mem_head? hd)
      exact ⟨[[c]], .cons isGap_nil hsingle hends (.nil hgap)⟩
  | @cons gap word rest ws hgap hword hends hrest =>
      cases gap with
      | nil =>
          have hlonger : IsWord (c :: word) :=
            ⟨List.cons_ne_nil c word, List.forall_mem_cons.mpr ⟨hc, hword.wordChars⟩⟩
          exact ⟨(c :: word) :: ws, .cons isGap_nil hlonger hends hrest⟩
      | cons d gap =>
          have hends' : EndsWord (d :: gap ++ (word ++ rest)) := by
            simpa [EndsWord] using hgap d List.mem_cons_self
          exact ⟨[c] :: word :: ws, .cons isGap_nil hsingle hends'
            (.cons hgap hword hends hrest)⟩

/-- All characters spell some words. -/
lemma exists_spelled (cs : List Char) : ∃ ws, Spelled cs ws := by
  induction cs with
  | nil => exact ⟨[], .nil isGap_nil⟩
  | cons c cs ih =>
      obtain ⟨ws, hws⟩ := ih
      cases hc : isWordChar c with
      | false => exact ⟨ws, hws.cons_gap hc⟩
      | true => exact hws.exists_cons_word hc

/-! ## Joining -/

/-- A word with its first character in upper case. -/
def capitalize : List Char → List Char
  | [] => []
  | c :: cs => upperChar c ++ cs

/-- A word has characters after capitalizing as before. -/
lemma capitalize_ne_nil (h : IsWord word) : capitalize word ≠ [] := by
  cases word with
  | nil => exact absurd rfl h.ne_nil
  | cons c cs => simp [capitalize, upperChar_ne_nil]

/-- After a gap a word starts. -/
lemma joinWords_gap (hgap : IsGap gap) (h : gap ≠ [] ∨ wordStart = true) (cs : List Char) :
    joinWords wordStart (gap ++ cs) = joinWords true cs := by
  induction gap generalizing wordStart with
  | nil => rw [List.nil_append, h.resolve_left fun hne => hne rfl]
  | cons c gap ih =>
      obtain ⟨hc, hgap⟩ := List.forall_mem_cons.mp hgap
      rw [List.cons_append, joinWords, hc, if_neg (by simp), ih hgap (.inr rfl)]

/-- The rest of a word stays as it is. -/
lemma joinWords_rest (hword : ∀ c ∈ word, isWordChar c = true) (cs : List Char) :
    joinWords false (word ++ cs) = word ++ joinWords false cs := by
  induction word with
  | nil => rfl
  | cons c word ih =>
      obtain ⟨hc, hword⟩ := List.forall_mem_cons.mp hword
      rw [List.cons_append, joinWords, if_pos hc, if_neg (by simp), ih hword]
      rfl

/-- The word that comes first is capitalized, and then the others. -/
lemma joinWords_word (hword : IsWord word) (cs : List Char) :
    joinWords true (word ++ cs) = capitalize word ++ joinWords false cs := by
  cases word with
  | nil => exact absurd rfl hword.ne_nil
  | cons c word =>
      obtain ⟨hc, hrest⟩ := List.forall_mem_cons.mp hword.wordChars
      rw [List.cons_append, joinWords, if_pos hc, if_pos rfl, joinWords_rest hrest, capitalize,
        List.append_assoc]

/-- What does not go on with a word is read as if none had come before. -/
lemma joinWords_of_endsWord (h : EndsWord cs) : joinWords false cs = joinWords true cs := by
  cases cs with
  | nil => rfl
  | cons c cs =>
      have hc : isWordChar c = false := h c rfl
      rw [joinWords, joinWords, hc, if_neg (by simp), if_neg (by simp)]

/-- Words are put together one by one, each with its first character in upper case. -/
lemma joinWords_of_spelled (h : Spelled cs ws) : joinWords true cs = ws.flatMap capitalize := by
  induction h with
  | @nil gap hgap =>
      have hjoin := joinWords_gap hgap (.inr rfl) []
      rwa [List.append_nil] at hjoin
  | cons hgap hword hends _ ih =>
      rw [joinWords_gap hgap (.inr rfl), joinWords_word hword, joinWords_of_endsWord hends, ih,
        List.flatMap_cons]

/-- Behind a gap the reading does not depend on what came before it. -/
lemma joinWords_append_gap (cs : List Char) (hgap : IsGap gap) (hne : gap ≠ []) :
    joinWords wordStart (cs ++ (gap ++ rest)) = joinWords wordStart cs ++ joinWords true rest := by
  induction cs generalizing wordStart with
  | nil => exact joinWords_gap hgap (.inl hne) rest
  | cons c cs ih =>
      rw [List.cons_append, joinWords, joinWords, ih, ih]
      split
      · rw [List.append_assoc]
      · rfl

/-- A gap at the end adds nothing. -/
lemma joinWords_append_gap_end (cs : List Char) (hgap : IsGap gap) :
    joinWords wordStart (cs ++ gap) = joinWords wordStart cs := by
  by_cases hne : gap = []
  · rw [hne, List.append_nil]
  · have hjoin : joinWords wordStart (cs ++ (gap ++ [])) =
        joinWords wordStart cs ++ joinWords true [] := joinWords_append_gap cs hgap hne
    rwa [List.append_nil, joinWords, List.append_nil] at hjoin

/-! ## Module names -/

/-- The module name that some words give. -/
def nameOfWords (ws : List (List Char)) : String :=
  let joined := ws.flatMap capitalize
  if ws = [] then defaultModuleName
  else if joined.head?.any isDigit then defaultModuleName ++ String.ofList joined
  else String.ofList joined

/-- Texts that are joined to the same characters have the same module name. -/
lemma toModuleName_congr (h : joinWords true name.toList = joinWords true other.toList) :
    toModuleName name = toModuleName other := by
  unfold toModuleName
  rw [h]

/-- A module name is that of the words. -/
lemma toModuleName_of_spelled (h : Spelled name.toList ws) : toModuleName name = nameOfWords ws := by
  unfold toModuleName nameOfWords
  rw [joinWords_of_spelled h]
  generalize name.toList = cs at h
  cases h with
  | nil hgap => rfl
  | @cons gap word rest ws hgap hword hends hrest =>
      rw [if_neg (List.cons_ne_nil word ws)]
      cases hjoined : (word :: ws).flatMap capitalize with
      | nil =>
          rw [List.flatMap_cons, List.append_eq_nil_iff] at hjoined
          exact absurd hjoined.1 (capitalize_ne_nil hword)
      | cons c cs => rfl

/-- Where there is a gap between two parts of a text, another one may stand as well. -/
lemma toModuleName_of_gaps (before after : String) {gap gap' : String}
    (hgap : IsGap gap.toList) (hgap' : IsGap gap'.toList) (hne : gap ≠ "") (hne' : gap' ≠ "") :
    toModuleName (before ++ gap ++ after) = toModuleName (before ++ gap' ++ after) := by
  have toList_ne {s : String} (hs : s ≠ "") : s.toList ≠ [] :=
    fun h => hs (String.toList_inj.mp h)
  apply toModuleName_congr
  simp only [String.toList_append, List.append_assoc]
  rw [joinWords_append_gap _ hgap (toList_ne hne), joinWords_append_gap _ hgap' (toList_ne hne')]

/-- Gaps at the ends of a text make no difference. -/
lemma toModuleName_between_gaps (name : String) {gap gap' : String} (hgap : IsGap gap.toList)
    (hgap' : IsGap gap'.toList) : toModuleName (gap ++ name ++ gap') = toModuleName name := by
  apply toModuleName_congr
  simp only [String.toList_append, List.append_assoc]
  rw [joinWords_gap hgap (.inr rfl), joinWords_append_gap_end _ hgap']

/-- A module name does not begin with a digit. -/
lemma isDigit_head_toModuleName (hc : c ∈ (toModuleName name).toList.head?) : isDigit c = false := by
  have hdefault : ∀ d ∈ defaultModuleName.toList.head?, isDigit d = false := by
    intro d hd
    obtain rfl : 'V' = d := Option.some.inj hd
    decide
  unfold toModuleName at hc
  split at hc
  · exact hdefault c hc
  · split at hc
    · rw [String.toList_append, List.head?_append] at hc
      exact hdefault c hc
    · rename_i hdigit
      rw [String.toList_ofList, List.head?_cons, Option.mem_some_iff] at hc
      rw [← hc]
      simpa using hdigit

/-! ## ASCII -/

/-- Words in ASCII are put together to letters and digits. -/
lemma isAlphanum_of_mem_joinWords (hascii : ∀ c ∈ cs, c.toNat < 128)
    (h : c ∈ joinWords wordStart cs) : c.isAlphanum = true := by
  induction cs generalizing wordStart with
  | nil => simp [joinWords] at h
  | cons d cs ih =>
      obtain ⟨hd, hcs⟩ := List.forall_mem_cons.mp hascii
      rw [joinWords, isWordChar_of_ascii hd, upperChar_of_ascii hd] at h
      split at h
      · rename_i hword
        rcases List.mem_append.mp h with h | h
        · split at h
          · rw [List.mem_singleton.mp h]
            rcases isUpper_or_isDigit_toUpper hword with hupper | hdigit
            · exact (of_isUpper hupper).1
            · simp [Char.isAlphanum, hdigit]
          · rwa [List.mem_singleton.mp h]
        · exact ih hcs h
      · exact ih hcs h

/-- Words in ASCII begin with a capital or a digit when they are put together. -/
lemma head_joinWords_of_ascii (hascii : ∀ c ∈ cs, c.toNat < 128)
    (h : c ∈ (joinWords true cs).head?) : c.isUpper = true ∨ c.isDigit = true := by
  induction cs with
  | nil => simp [joinWords] at h
  | cons d cs ih =>
      obtain ⟨hd, hcs⟩ := List.forall_mem_cons.mp hascii
      rw [joinWords, isWordChar_of_ascii hd, upperChar_of_ascii hd] at h
      split at h
      · rename_i hword
        obtain rfl : d.toUpper = c := by simpa using h
        exact isUpper_or_isDigit_toUpper hword
      · exact ih hcs h

/-- A text in ASCII has a module name of one capital followed by letters and digits. -/
lemma toModuleName_of_ascii (hascii : ∀ c ∈ name.toList, c.toNat < 128) :
    ∃ first rest, (toModuleName name).toList = first :: rest ∧ first.isUpper = true ∧
      ∀ c ∈ rest, c.isAlphanum = true := by
  have hdefault : defaultModuleName.toList = ['V', 'e', 'l', 'o', 'x', 'A', 'p', 'p'] := by decide
  have hletters : ∀ c ∈ ['e', 'l', 'o', 'x', 'A', 'p', 'p'], c.isAlphanum = true :=
    List.all_eq_true.mp (by decide)
  have hjoined : ∀ c ∈ joinWords true name.toList, c.isAlphanum = true :=
    fun c hc => isAlphanum_of_mem_joinWords hascii hc
  have hhead : ∀ c ∈ (joinWords true name.toList).head?, c.isUpper = true ∨ c.isDigit = true :=
    fun c hc => head_joinWords_of_ascii hascii hc
  unfold toModuleName
  split
  · exact ⟨'V', _, hdefault, by decide, hletters⟩
  · rename_i d ds hds
    rw [hds] at hjoined hhead
    split
    · refine ⟨'V', ['e', 'l', 'o', 'x', 'A', 'p', 'p'] ++ d :: ds, ?_, by decide, ?_⟩
      · rw [String.toList_append, hdefault, String.toList_ofList]
        rfl
      · rw [List.forall_mem_append]
        exact ⟨hletters, hjoined⟩
    · rename_i hdigit
      obtain ⟨hd, hds⟩ := List.forall_mem_cons.mp hjoined
      refine ⟨d, ds, String.toList_ofList, ?_, hds⟩
      rw [isDigit_of_ascii (ascii_of_isAlphanum hd)] at hdigit
      exact (hhead d rfl).resolve_right hdigit

/-- A name of one capital followed by letters and digits is its own module name. -/
lemma toModuleName_eq_self (hname : name.toList = c :: rest) (hupper : c.isUpper = true)
    (hrest : ∀ d ∈ rest, d.isAlphanum = true) : toModuleName name = name := by
  obtain ⟨hc, hdigit, htoUpper⟩ := of_isUpper hupper
  have hascii := ascii_of_isAlphanum hc
  have hword : IsWord (c :: rest) := by
    refine ⟨List.cons_ne_nil c rest, List.forall_mem_cons.mpr ⟨?_, fun d hd => ?_⟩⟩
    · rw [isWordChar_of_ascii hascii, hc]
    · rw [isWordChar_of_ascii (ascii_of_isAlphanum (hrest d hd)), hrest d hd]
  have hjoined : joinWords true name.toList = c :: rest := by
    have hjoin := joinWords_word hword []
    rw [List.append_nil, joinWords, List.append_nil, capitalize, upperChar_of_ascii hascii,
      htoUpper] at hjoin
    rw [hname, hjoin]
    rfl
  simp only [toModuleName, hjoined, isDigit_of_ascii hascii, hdigit]
  rw [if_neg (by simp), ← hname, String.ofList_toList]

/-- **Module names depend on words only.** The module name of a text is made from its longest runs
of word characters, each with its first character in upper case, with the default name for no words
and in front of what would begin with a digit. So another gap in the place of one, or gaps at the ends,
make no difference; the name is never empty and never begins with a digit; and for a text in ASCII it
is a capital followed by letters and digits, and its own module name. -/
theorem toModuleName_of_words (name : String) :
    ((∃ ws, Spelled name.toList ws) ∧
      ∀ ws, Spelled name.toList ws → toModuleName name = nameOfWords ws) ∧
    (∀ before gap gap' after : String, IsGap gap.toList → IsGap gap'.toList → gap ≠ "" → gap' ≠ "" →
      toModuleName (before ++ gap ++ after) = toModuleName (before ++ gap' ++ after)) ∧
    (∀ gap gap' : String, IsGap gap.toList → IsGap gap'.toList →
      toModuleName (gap ++ name ++ gap') = toModuleName name) ∧
    toModuleName name ≠ "" ∧
    (∀ c ∈ (toModuleName name).toList.head?, isDigit c = false) ∧
    ((∀ c ∈ name.toList, c.toNat < 128) →
      (∃ first rest, (toModuleName name).toList = first :: rest ∧ first.isUpper = true ∧
        ∀ c ∈ rest, c.isAlphanum = true) ∧
      toModuleName (toModuleName name) = toModuleName name) := by
  refine ⟨⟨exists_spelled _, fun ws => toModuleName_of_spelled⟩, ?_, ?_, toModuleName_ne_empty name,
    fun c => isDigit_head_toModuleName, fun hascii => ?_⟩
  · exact fun before gap gap' after hgap hgap' hne hne' =>
      toModuleName_of_gaps before after hgap hgap' hne hne'
  · exact fun gap gap' hgap hgap' => toModuleName_between_gaps name hgap hgap'
  · obtain ⟨first, rest, hname, hfirst, hrest⟩ := toModuleName_of_ascii hascii
    exact ⟨⟨first, rest, hname, hfirst, hrest⟩, toModuleName_eq_self hname hfirst hrest⟩

/-- The words of `-2nd app` are `2nd` and `app`, and its module name is `VeloxApp2ndApp`, which is its
own. -/
theorem toModuleName_of_words_secondApp :
    toModuleName "-2nd app" = nameOfWords [['2', 'n', 'd'], ['a', 'p', 'p']] ∧
      nameOfWords [['2', 'n', 'd'], ['a', 'p', 'p']] = "VeloxApp2ndApp" ∧
      toModuleName ("-2nd" ++ " " ++ "app") = toModuleName ("-2nd" ++ "/ -" ++ "app") ∧
      toModuleName (toModuleName "-2nd app") = toModuleName "-2nd app" := by
  have hlast : Spelled [' ', 'a', 'p', 'p'] [['a', 'p', 'p']] :=
    @Spelled.cons [' '] ['a', 'p', 'p'] [] [] (by decide) (by decide) (by decide) (.nil isGap_nil)
  have hspelled : Spelled "-2nd app".toList [['2', 'n', 'd'], ['a', 'p', 'p']] :=
    @Spelled.cons ['-'] ['2', 'n', 'd'] [' ', 'a', 'p', 'p'] _ (by decide) (by decide) (by decide)
      hlast
  obtain ⟨⟨-, hwords⟩, hgaps, -, -, -, hascii⟩ := toModuleName_of_words "-2nd app"
  refine ⟨hwords _ hspelled, by decide, ?_, (hascii (by simp)).2⟩
  exact hgaps "-2nd" " " "/ -" "app" (by decide) (by decide) (by decide) (by decide)

end Scaffold.Project
