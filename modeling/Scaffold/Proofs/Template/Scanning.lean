import Mathlib.Data.List.Infix
import Mathlib.Data.List.TakeWhile
import Mathlib.Tactic.Lemma
import Scaffold.Proofs.Text.Classes
import Scaffold.Template.Scanner

/-!
# One token after another

What the scanner does with a place in a template, said rule by rule, and what follows for all the
tokens of a template.

* `splitAtOpen_append_of_not_infix`: the text before a bracket is the longest one without a bracket.
* `Scans`: one token, with the blanks before it and what its end depends on; `scans_iff` says that
  these rules are what the scanner does.
* `Token.lexeme`: the characters that a token was read from.
* `Decomposes`, `exists_decomposes_tokenize`: a template is the lexemes of its tokens in
  order, with blanks before tokens inside of directives only, and the position of an invalid
  character is where it stands.
-/

namespace Scaffold.Template

open Text (isBlank)

/-! ## Text and brackets -/

/-- The characters of the opening bracket. -/
def openChars : List Char := ['{', '%']

/-- What is cut off at the first opening bracket holds none. -/
lemma not_infix_splitAtOpen (cs : List Char) : ¬ openChars <:+: (splitAtOpen cs).1 := by
  fun_induction splitAtOpen cs with
  | case1 => simp [openChars]
  | case2 cs => simp [openChars]
  | case3 c cs hopen ih =>
      rw [List.infix_cons_iff, not_or]
      refine ⟨?_, ih⟩
      rintro ⟨rest, hrest⟩
      obtain ⟨rfl, htail⟩ := List.cons.inj hrest
      have happend := splitAtOpen_append cs
      rw [← htail] at happend
      exact hopen _ rfl happend.symm

/-- What is left at the first opening bracket starts with it, or is nothing. -/
lemma splitAtOpen_snd (cs : List Char) :
    (splitAtOpen cs).2 = [] ∨ openChars <+: (splitAtOpen cs).2 := by
  fun_induction splitAtOpen cs with
  | case1 => exact .inl rfl
  | case2 cs => exact .inr ⟨cs, rfl⟩
  | case3 c cs hopen ih => exact ih

/-- Text without an opening bracket, before a bracket or at the end, is what is cut off. -/
lemma splitAtOpen_append_of_not_infix {content rest : List Char} (hc : ¬ openChars <:+: content)
    (hr : rest = [] ∨ openChars <+: rest) : splitAtOpen (content ++ rest) = (content, rest) := by
  induction content with
  | nil =>
      rcases hr with rfl | ⟨cs, rfl⟩
      · rfl
      · rfl
  | cons c cs ih =>
      rw [List.infix_cons_iff, not_or] at hc
      have hopen : ∀ ds, c = '{' → cs ++ rest = '%' :: ds → False := by
        rintro ds rfl hds
        cases cs with
        | nil => rcases hr with rfl | ⟨es, rfl⟩ <;> simp [openChars] at hds
        | cons d cs =>
            obtain ⟨rfl, -⟩ := List.cons.inj hds
            exact hc.1 ⟨cs, rfl⟩
      rw [List.cons_append, splitAtOpen.eq_3 _ _ hopen, ih hc.2]

/-! ## Lexemes -/

/-- The characters that a token was read from. -/
def Token.lexeme (t : Token) : List Char :=
  match t.kind with
  | .openBracket => ['{', '%']
  | .closeBracket => ['%', '}']
  | .bang => ['!']
  | .ifWord => "if".toList
  | .elseWord => "else".toList
  | .endifWord => "endif".toList
  | .variable | .text | .invalid => t.value.toList

/-- A word spells the keyword that it is taken for. -/
lemma toList_of_ofKeyword? {word : String} {kind : Token.Kind}
    (h : Token.Kind.ofKeyword? word = some kind) :
    ({ kind := kind } : Token).lexeme = word.toList := by
  unfold Token.Kind.ofKeyword? at h
  split at h
  · obtain rfl := Option.some.inj h; rfl
  · obtain rfl := Option.some.inj h; rfl
  · obtain rfl := Option.some.inj h; rfl
  · cases h

/-- The lexeme of a word is the word, keyword or not. -/
@[simp] lemma lexeme_ofWord (word : String) : (Token.ofWord word).lexeme = word.toList := by
  unfold Token.ofWord
  cases h : Token.Kind.ofKeyword? word with
  | none => rfl
  | some kind => exact toList_of_ofKeyword? h

/-- A word is a keyword or the name of a variable. -/
lemma kind_ofWord (word : String) :
    (Token.ofWord word).kind ∈ [Token.Kind.ifWord, .elseWord, .endifWord, .variable] := by
  unfold Token.ofWord Token.Kind.ofKeyword?
  split <;> rename_i h <;> split at h <;> simp_all [Token.ofName]

/-- So a word is no bracket, no `!`, no text and no invalid character. -/
lemma kind_ofWord_ne {kind : Token.Kind}
    (h : kind ∉ [Token.Kind.ifWord, .elseWord, .endifWord, .variable]) (word : String) :
    (Token.ofWord word).kind ≠ kind :=
  fun hk => h (hk ▸ kind_ofWord word)

/-! ## One token -/

/-- What comes next does not go on with a word. -/
def EndsWord (rest : List Char) : Prop :=
  ∀ c cs, rest = c :: cs → isNameChar c = false

/-- One token of the scanner. Outside of a directive there is an opening bracket, or text up to the
next one. Inside, behind blanks, there is a closing bracket, a `!`, a word as long as it goes, or a
character that is none of these. -/
inductive Scans : Scanner → Token → Scanner → Prop
  | openBracket {cs offset} :
      Scans ⟨'{' :: '%' :: cs, false, offset⟩ .openBracket ⟨cs, true, offset + 2⟩
  | text {content cs offset} (hne : content ≠ []) (hc : ¬ openChars <:+: content)
      (hr : cs = [] ∨ openChars <+: cs) :
      Scans ⟨content ++ cs, false, offset⟩ (.text (String.ofList content))
        ⟨cs, false, offset + content.length⟩
  | closeBracket {gap cs offset} (hgap : ∀ c ∈ gap, isBlank c = true) :
      Scans ⟨gap ++ '%' :: '}' :: cs, true, offset⟩ .closeBracket
        ⟨cs, false, offset + gap.length + 2⟩
  | bang {gap cs offset} (hgap : ∀ c ∈ gap, isBlank c = true) :
      Scans ⟨gap ++ '!' :: cs, true, offset⟩ .bang ⟨cs, true, offset + gap.length + 1⟩
  | word {gap c cs rest offset} (hgap : ∀ c ∈ gap, isBlank c = true) (hstart : isNameStart c = true)
      (hword : ∀ d ∈ cs, isNameChar d = true) (hend : EndsWord rest) :
      Scans ⟨gap ++ (c :: cs ++ rest), true, offset⟩ (.ofWord (String.ofList (c :: cs)))
        ⟨rest, true, offset + gap.length + (c :: cs).length⟩
  | invalid {gap c cs offset} (hgap : ∀ c ∈ gap, isBlank c = true) (hblank : isBlank c = false)
      (hbang : c ≠ '!') (hstart : isNameStart c = false)
      (hclose : ∀ ds, c = '%' → cs = '}' :: ds → False) :
      Scans ⟨gap ++ c :: cs, true, offset⟩ (.invalid c (offset + gap.length + 1))
        ⟨cs, true, offset + gap.length + 1⟩

/-- A place outside of a directive, at text. -/
lemma nextOutside?_eq_some {cs : List Char} {offset : Nat} (hne : cs ≠ [])
    (hopen : ¬ openChars <+: cs) :
    Scanner.nextOutside? ⟨cs, false, offset⟩ =
      some (.text (String.ofList (splitAtOpen cs).1),
        ⟨(splitAtOpen cs).2, false, offset + (splitAtOpen cs).1.length⟩) := by
  match cs with
  | [] => exact absurd rfl hne
  | c :: cs =>
      have h : ∀ ds, c = '{' → cs = '%' :: ds → False := by
        rintro ds rfl rfl
        exact hopen ⟨ds, rfl⟩
      unfold Scanner.nextOutside?
      split
      · rename_i hnil
        cases hnil
      · rename_i ds hds
        obtain ⟨rfl, rfl⟩ := List.cons.inj hds
        exact (h ds rfl rfl).elim
      · rename_i d ds _ hds
        obtain ⟨rfl, rfl⟩ := List.cons.inj hds
        rw [splitAtOpen.eq_3 _ _ h]

/-- A place inside of a directive, at a character that begins neither a closing bracket nor is a
`!`. -/
lemma nextInside?_of_other {c : Char} {cs : List Char} {offset : Nat}
    (hclose : ∀ ds, c = '%' → cs = '}' :: ds → False) (hbang : c ≠ '!') :
    Scanner.nextInside? ⟨c :: cs, true, offset⟩ =
      if isNameStart c then
        some (.ofWord (String.ofList (c :: cs.takeWhile isNameChar)),
          ⟨cs.dropWhile isNameChar, true, offset + (c :: cs.takeWhile isNameChar).length⟩)
      else
        some (.invalid c (offset + 1), ⟨cs, true, offset + 1⟩) := by
  unfold Scanner.nextInside?
  split
  · rename_i hnil
    cases hnil
  · rename_i ds hds
    obtain ⟨rfl, rfl⟩ := List.cons.inj hds
    exact (hclose ds rfl rfl).elim
  · rename_i ds hds
    obtain ⟨rfl, rfl⟩ := List.cons.inj hds
    exact absurd rfl hbang
  · rename_i d ds _ _ hds
    obtain ⟨rfl, rfl⟩ := List.cons.inj hds
    rfl

/-- The blanks in front of a character that is none are passed over. -/
lemma skipBlanks_append {gap : List Char} {c : Char} {cs : List Char} {inside : Bool} {offset : Nat}
    (hgap : ∀ d ∈ gap, isBlank d = true) (hc : isBlank c = false) :
    Scanner.skipBlanks ⟨gap ++ c :: cs, inside, offset⟩ =
      ⟨c :: cs, inside, offset + gap.length⟩ := by
  simp [Scanner.skipBlanks, List.takeWhile_append_of_pos hgap, List.dropWhile_append_of_pos hgap,
    hc]

/-- Every rule is what the scanner does. -/
lemma next?_of_scans {s s' : Scanner} {t : Token} (h : Scans s t s') : s.next? = some (t, s') := by
  cases h with
  | openBracket => rfl
  | @text content cs offset hne hc hr =>
      have hopen : ¬ openChars <+: content ++ cs := by
        intro hp
        have hsplit := splitAtOpen_append_of_not_infix hc hr
        obtain ⟨ds, hds⟩ := hp
        rw [← hds] at hsplit
        exact hne (congrArg Prod.fst hsplit).symm
      have hne' : content ++ cs ≠ [] := by simp [hne]
      rw [Scanner.next?, if_neg (by simp), nextOutside?_eq_some hne' hopen,
        splitAtOpen_append_of_not_infix hc hr]
  | closeBracket hgap =>
      rw [Scanner.next?, if_pos rfl, skipBlanks_append hgap (by decide)]
      rfl
  | bang hgap =>
      rw [Scanner.next?, if_pos rfl, skipBlanks_append hgap (by decide)]
      rfl
  | @word gap c cs rest offset hgap hstart hword hend =>
      have hblank : isBlank c = false := by
        rw [Bool.eq_false_iff]
        intro hb
        rw [isNameStart_of_isBlank hb] at hstart
        cases hstart
      have hclose : ∀ ds, c = '%' → cs ++ rest = '}' :: ds → False := by
        rintro ds rfl -
        revert hstart
        decide
      have hbang : c ≠ '!' := by
        rintro rfl
        revert hstart
        decide
      have htake : rest.takeWhile isNameChar = [] := by
        cases rest with
        | nil => rfl
        | cons d ds => rw [List.takeWhile_cons_of_neg (by simp [hend d ds rfl])]
      have hdrop : rest.dropWhile isNameChar = rest := by
        cases rest with
        | nil => rfl
        | cons d ds => rw [List.dropWhile_cons_of_neg (by simp [hend d ds rfl])]
      rw [Scanner.next?, if_pos rfl, List.cons_append, skipBlanks_append hgap hblank,
        nextInside?_of_other hclose hbang, if_pos hstart, List.takeWhile_append_of_pos hword,
        List.dropWhile_append_of_pos hword, htake, hdrop, List.append_nil]
  | invalid hgap hblank hbang hstart hclose =>
      rw [Scanner.next?, if_pos rfl, skipBlanks_append hgap hblank,
        nextInside?_of_other hclose hbang, if_neg (by simp [hstart])]
      simp

/-- The scanner does nothing but what the rules say. -/
lemma scans_of_next? {s s' : Scanner} {t : Token} (h : s.next? = some (t, s')) : Scans s t s' := by
  obtain ⟨rest, inside, offset⟩ := s
  cases inside with
  | false =>
      rw [Scanner.next?, if_neg (by simp)] at h
      by_cases hopen : openChars <+: rest
      · obtain ⟨cs, rfl⟩ := hopen
        obtain ⟨rfl, rfl⟩ := Prod.mk.inj (Option.some.inj h)
        exact .openBracket
      · cases rest with
        | nil => cases h
        | cons c cs =>
            rw [nextOutside?_eq_some (List.cons_ne_nil c cs) hopen] at h
            obtain ⟨rfl, rfl⟩ := Prod.mk.inj (Option.some.inj h)
            have hne : (splitAtOpen (c :: cs)).1 ≠ [] := by
              intro hnil
              rcases splitAtOpen_snd (c :: cs) with hs | hs
              · have := splitAtOpen_append (c :: cs)
                rw [hnil, hs] at this
                cases this
              · have := splitAtOpen_append (c :: cs)
                rw [hnil, List.nil_append] at this
                exact hopen (this ▸ hs)
            have : Scans
                ⟨(splitAtOpen (c :: cs)).1 ++ (splitAtOpen (c :: cs)).2, false, offset⟩ _ _ :=
              .text hne (not_infix_splitAtOpen _) (splitAtOpen_snd _)
            rwa [splitAtOpen_append] at this
  | true =>
      rw [Scanner.next?, if_pos rfl] at h
      have hgap : ∀ c ∈ rest.takeWhile isBlank, isBlank c = true :=
        fun c hc => List.mem_takeWhile_imp hc
      have hsplit : rest.takeWhile isBlank ++ rest.dropWhile isBlank = rest :=
        List.takeWhile_append_dropWhile
      rw [← hsplit]
      simp only [Scanner.skipBlanks] at h
      have hhead : ∀ c cs, rest.dropWhile isBlank = c :: cs → isBlank c = false := by
        intro c cs hc
        have := List.head?_dropWhile_not isBlank rest
        simpa [hc] using this
      generalize rest.takeWhile isBlank = gap at h hgap
      generalize rest.dropWhile isBlank = rest' at h hhead
      unfold Scanner.nextInside? at h
      split at h
      · cases h
      · obtain ⟨rfl, rfl⟩ := Prod.mk.inj (Option.some.inj h)
        rename_i hrest
        obtain rfl := hrest
        exact .closeBracket hgap
      · obtain ⟨rfl, rfl⟩ := Prod.mk.inj (Option.some.inj h)
        rename_i hrest
        obtain rfl := hrest
        exact .bang hgap
      · rename_i c cs hclose hbang hrest
        obtain rfl : rest' = c :: cs := hrest
        split at h
        · rename_i hstart
          obtain ⟨rfl, rfl⟩ := Prod.mk.inj (Option.some.inj h)
          have hword : ∀ d ∈ cs.takeWhile isNameChar, isNameChar d = true :=
            fun d hd => List.mem_takeWhile_imp hd
          have hend : EndsWord (cs.dropWhile isNameChar) := by
            intro d ds hd
            have := List.head?_dropWhile_not isNameChar cs
            simpa [hd] using this
          have hcs : cs.takeWhile isNameChar ++ cs.dropWhile isNameChar = cs :=
            List.takeWhile_append_dropWhile
          have : Scans
              ⟨gap ++ (c :: cs.takeWhile isNameChar ++ cs.dropWhile isNameChar), true, offset⟩
              _ _ := .word hgap hstart hword hend
          rwa [List.cons_append, hcs] at this
        · rename_i hstart
          obtain ⟨rfl, rfl⟩ := Prod.mk.inj (Option.some.inj h)
          exact .invalid hgap (hhead c cs rfl) (fun hc => hbang hc) (by simpa using hstart)
            (fun ds hc hds => hclose ds hc hds)

/-- The rules are what the scanner does. -/
lemma scans_iff {s s' : Scanner} {t : Token} : s.next? = some (t, s') ↔ Scans s t s' :=
  ⟨scans_of_next?, next?_of_scans⟩

/-- A scanner has no token left at the end, or inside of a directive when only blanks are left. -/
lemma next?_eq_none_iff {s : Scanner} :
    s.next? = none ↔ s.rest = [] ∨ (s.inside = true ∧ ∀ c ∈ s.rest, isBlank c = true) := by
  obtain ⟨rest, inside, offset⟩ := s
  constructor
  · intro h
    cases inside with
    | false =>
        left
        rw [Scanner.next?, if_neg (by simp)] at h
        unfold Scanner.nextOutside? at h
        split at h
        · assumption
        · cases h
        · cases h
    | true =>
        right
        refine ⟨rfl, ?_⟩
        rw [Scanner.next?, if_pos rfl] at h
        unfold Scanner.nextInside? at h
        split at h
        · rename_i hnil
          exact List.dropWhile_eq_nil_iff.mp hnil
        · cases h
        · cases h
        · split at h <;> cases h
  · rintro (h | ⟨h, hblank⟩)
    · obtain rfl : rest = [] := h
      cases inside <;> rfl
    · obtain rfl : inside = true := h
      have hdrop : rest.dropWhile isBlank = [] := List.dropWhile_eq_nil_iff.mpr hblank
      simp [Scanner.next?, Scanner.skipBlanks, hdrop, Scanner.nextInside?]

/-- The tokens from a place on, by its first token. -/
lemma tokens_of_scans {s s' : Scanner} {t : Token} (h : Scans s t s') :
    s.tokens = t :: s'.tokens :=
  Scanner.tokens_of_next?_eq_some (next?_of_scans h)

/-- Induction along the tokens of a scanner. -/
@[elab_as_elim]
theorem scanner_induction {motive : Scanner → Prop}
    (done : ∀ s : Scanner, s.next? = none → motive s)
    (scan : ∀ s t s', Scans s t s' → motive s' → motive s) (s : Scanner) : motive s := by
  induction h : s.rest.length using Nat.strong_induction_on generalizing s with
  | _ n ih =>
      cases hs : s.next? with
      | none => exact done s hs
      | some next =>
          obtain ⟨t, s'⟩ := next
          have hlt := Scanner.next?_shorter hs
          exact scan s t s' (scans_of_next? hs) (ih _ (h ▸ hlt) s' rfl)

/-! ## Nothing is lost -/

/-- Whether the place behind a token lies inside of a directive. -/
def Token.leads (inside : Bool) (t : Token) : Bool :=
  match t.kind with
  | .openBracket => true
  | .closeBracket => false
  | _ => inside

/-- Whether the place behind some tokens lies inside of a directive. -/
def insideAfter (inside : Bool) (ts : List Token) : Bool :=
  ts.foldl Token.leads inside

/-- Tokens in a row lead from where the first of them have led. -/
lemma insideAfter_append (inside : Bool) (ts us : List Token) :
    insideAfter inside (ts ++ us) = insideAfter (insideAfter inside ts) us := by
  rw [insideAfter, insideAfter, insideAfter, List.foldl_append]

/-- A word leads neither into a directive nor out of it. -/
lemma leads_ofWord (inside : Bool) (word : String) : (Token.ofWord word).leads inside = inside := by
  have h := kind_ofWord word
  simp only [List.mem_cons, List.not_mem_nil, or_false] at h
  rcases h with h | h | h | h <;> simp [Token.leads, h]

/-- What one token uses up: blanks, which are there only inside of a directive, and its lexeme. -/
lemma Scans.exists_gap {s s' : Scanner} {t : Token} (h : Scans s t s') :
    ∃ gap, s.rest = gap ++ t.lexeme ++ s'.rest ∧ (∀ c ∈ gap, isBlank c = true) ∧
      (gap ≠ [] → s.inside = true) ∧ s'.inside = t.leads s.inside ∧
      s'.offset = s.offset + (gap ++ t.lexeme).length ∧
      (t.kind = .invalid →
        ∃ c, t = .invalid c ((s.offset + gap.length : Nat) + 1) ∧ t.lexeme = [c]) := by
  have hnone : ∀ c ∈ ([] : List Char), isBlank c = true := by simp
  cases h with
  | openBracket => exact ⟨[], rfl, hnone, fun h => absurd rfl h, rfl, rfl, by rintro ⟨⟩⟩
  | text hne hc hr =>
      refine ⟨[], ?_, hnone, fun h => absurd rfl h, rfl, ?_, by rintro ⟨⟩⟩
      · simp [Token.lexeme, Token.text]
      · simp [Token.lexeme, Token.text]
  | @closeBracket gap cs offset hgap =>
      refine ⟨gap, ?_, hgap, fun _ => rfl, rfl, ?_, by rintro ⟨⟩⟩
      · simp [Token.lexeme, Token.closeBracket]
      · simp [Token.lexeme, Token.closeBracket, Nat.add_assoc]
  | @bang gap cs offset hgap =>
      refine ⟨gap, ?_, hgap, fun _ => rfl, rfl, ?_, by rintro ⟨⟩⟩
      · simp [Token.lexeme, Token.bang]
      · simp [Token.lexeme, Token.bang, Nat.add_assoc]
  | @word gap c cs rest offset hgap hstart hword hend =>
      refine ⟨gap, ?_, hgap, fun _ => rfl, (leads_ofWord true _).symm, ?_, ?_⟩
      · simp
      · simp [Nat.add_assoc]
      · intro hk
        have hmem := kind_ofWord (String.ofList (c :: cs))
        rw [hk] at hmem
        exact absurd hmem (by decide)
  | @invalid gap c cs offset hgap hblank hbang hstart hclose =>
      refine ⟨gap, ?_, hgap, fun _ => rfl, rfl, ?_, fun _ => ⟨c, by simp, ?_⟩⟩
      · simp [Token.lexeme, Token.invalid]
      · simp [Token.lexeme, Token.invalid, Nat.add_assoc]
      · simp [Token.lexeme, Token.invalid]

/-- A token with the characters that stand in front of it. -/
structure Piece where
  gap : List Char
  token : Token

/-- The characters of a piece. -/
def Piece.written (p : Piece) : List Char :=
  p.gap ++ p.token.lexeme

/-- Some characters, which start at an offset of a template and inside of a directive or not, are the
pieces in order and then a tail. Only blanks stand in front of lexemes and in the tail, and only where
the tokens before them have led into a directive. The position of an invalid character is its place in
the template, counted from one. -/
structure Decomposes (cs : List Char) (inside : Bool) (offset : Nat) (pieces : List Piece)
    (tail : List Char) : Prop where
  chars_eq : cs = pieces.flatMap Piece.written ++ tail
  gap_blank : ∀ p ∈ pieces, ∀ c ∈ p.gap, isBlank c = true
  tail_blank : ∀ c ∈ tail, isBlank c = true
  gap_inside : ∀ before p after, pieces = before ++ p :: after → p.gap ≠ [] →
    insideAfter inside (before.map Piece.token) = true
  tail_inside : tail ≠ [] → insideAfter inside (pieces.map Piece.token) = true
  position_eq : ∀ before p after, pieces = before ++ p :: after → p.token.kind = .invalid →
    ∃ c, p.token.lexeme = [c] ∧ p.token = .invalid c
      ((offset + (before.flatMap Piece.written ++ p.gap).length : Nat) + 1)

/-- One more piece in front. -/
lemma Decomposes.cons {s s' : Scanner} {t : Token} {pieces : List Piece} {tail : List Char}
    (h : Scans s t s') (hs : Decomposes s'.rest s'.inside s'.offset pieces tail) :
    ∃ gap, Decomposes s.rest s.inside s.offset (⟨gap, t⟩ :: pieces) tail := by
  obtain ⟨gap, hrest, hblank, hinside, hleads, hoffset, hinvalid⟩ := h.exists_gap
  refine ⟨gap, ?_, ?_, hs.tail_blank, ?_, ?_, ?_⟩
  · rw [hrest, hs.chars_eq, List.flatMap_cons, Piece.written]
    simp only [List.append_assoc]
  · simpa using ⟨hblank, hs.gap_blank⟩
  · intro before p after heq hne
    cases before with
    | nil =>
        obtain ⟨rfl, -⟩ := List.cons.inj heq
        exact hinside hne
    | cons p₀ before =>
        obtain ⟨rfl, htail⟩ := List.cons.inj heq
        have := hs.gap_inside before p after htail hne
        rwa [hleads] at this
  · intro hne
    have := hs.tail_inside hne
    rwa [hleads] at this
  · intro before p after heq hk
    cases before with
    | nil =>
        obtain ⟨rfl, -⟩ := List.cons.inj heq
        obtain ⟨c, hc, hlex⟩ := hinvalid hk
        exact ⟨c, hlex, hc⟩
    | cons p₀ before =>
        obtain ⟨rfl, htail⟩ := List.cons.inj heq
        obtain ⟨c, hlex, hc⟩ := hs.position_eq before p after htail hk
        refine ⟨c, hlex, ?_⟩
        rw [hc, hoffset]
        simp [Piece.written, Nat.add_assoc]

/-- What is left at any place is made of its tokens. -/
lemma exists_decomposes (s : Scanner) :
    ∃ pieces tail, pieces.map Piece.token = s.tokens ∧
      Decomposes s.rest s.inside s.offset pieces tail := by
  induction s using scanner_induction with
  | done s h =>
      refine ⟨[], s.rest, (Scanner.tokens_of_next?_eq_none h).symm, rfl, by simp, ?_, by simp, ?_,
        by simp⟩
      · rcases next?_eq_none_iff.mp h with hnil | ⟨-, hblank⟩
        · simp [hnil]
        · exact hblank
      · intro hne
        rcases next?_eq_none_iff.mp h with hnil | ⟨hinside, -⟩
        · exact absurd hnil hne
        · exact hinside
  | scan s t s' h ih =>
      obtain ⟨pieces, tail, htokens, hs'⟩ := ih
      obtain ⟨gap, hs⟩ := Decomposes.cons h hs'
      exact ⟨⟨gap, t⟩ :: pieces, tail, by rw [List.map_cons, htokens, tokens_of_scans h], hs⟩

/-- **Scanning loses nothing.** A template is the lexemes of its tokens in order, with blanks put in
front of tokens inside of directives, and at the end of a template that ends inside of one. The
character that an invalid token reports stands in the template at the position that it reports. -/
theorem exists_decomposes_tokenize (template : String) :
    ∃ pieces tail, pieces.map Piece.token = tokenize template ∧
      Decomposes template.toList false 0 pieces tail ∧
      ∀ t ∈ tokenize template, t.kind = .invalid →
        ∃ (c : Char) (i : Nat), t.value = String.singleton c ∧ t.position = i + 1 ∧
          template.toList[i]? = some c := by
  obtain ⟨pieces, tail, htokens, h⟩ := exists_decomposes (Scanner.start template)
  have hrest : template.toList = pieces.flatMap Piece.written ++ tail := h.chars_eq
  refine ⟨pieces, tail, htokens, h, ?_⟩
  intro t ht hk
  rw [tokenize, ← htokens] at ht
  obtain ⟨p, hp, rfl⟩ := List.mem_map.mp ht
  obtain ⟨before, after, heq⟩ := List.append_of_mem hp
  obtain ⟨c, hlex, hc⟩ := h.position_eq before p after heq hk
  refine ⟨c, (before.flatMap Piece.written ++ p.gap).length, ?_, ?_, ?_⟩
  · rw [hc]; rfl
  · rw [hc]
    simp [Token.invalid, Scanner.start]
  · rw [hrest, heq, List.flatMap_append, List.flatMap_cons, Piece.written, hlex]
    simp only [List.append_assoc]
    rw [← List.append_assoc, List.getElem?_append_right (Nat.le_refl _), Nat.sub_self]
    rfl

end Scaffold.Template
