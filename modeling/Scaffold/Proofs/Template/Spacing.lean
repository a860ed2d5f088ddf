import Mathlib.Tactic.Lemma
import Scaffold.Proofs.Template.Scanning
import Scaffold.Proofs.Template.Viability
import Scaffold.Template.Render

/-!
# Blanks inside of directives

Blanks that are put in between two tokens of a directive, or around them, are passed over. All that
changes is where the invalid characters behind them stand.

* `Scanner.Passes`: the tokens on the way from one place of a template to another.
* `BetweenTokens`: a place of a template lies in a directive and not within a token of it.
* `Passes.replace`: the way to a place inside of a directive stays the same if something else stands
  there that begins alike, or with a blank.
* `Token.moved`, `SyntaxError.moved`, `RenderError.moved`: what a position becomes when something is
  put in before it.
* `tokenize_insert_blanks`: the tokens, the statements and the rendered text of a template with more
  blanks in its directives.
-/

namespace Scaffold.Template

open Text (isBlank)

variable {s s' : Scanner} {t : Token} {ts : List Token} {p : Progress} {rest more gap : List Char}
  {offset n : Nat}

/-! ## Places in a template -/

/-- The tokens that a scanner takes on its way from one place to another. -/
inductive Scanner.Passes : Scanner → List Token → Scanner → Prop
  | refl (s : Scanner) : Passes s [] s
  | step {s s₁ s' : Scanner} {t : Token} {ts : List Token} (h : Scans s t s₁)
      (hs : Passes s₁ ts s') : Passes s (t :: ts) s'

/-- The place where two parts of a template meet lies in a directive, and not within a token of it:
the scanner comes behind a token inside of the directive, and only blanks stand from there up to the
place. So the place may be directly behind the opening bracket, between two tokens that follow each
other, among blanks, or at the end of a template that ends inside of the directive. -/
def BetweenTokens (front back : String) : Prop :=
  ∃ ts s gap, (Scanner.start (front ++ back)).Passes ts s ∧ s.inside = true ∧
    s.rest = gap ++ back.toList ∧ ∀ c ∈ gap, isBlank c = true

/-- The tokens from the start of a way are those on the way and those behind it. -/
lemma tokens_of_passes (h : s.Passes ts s') : s.tokens = ts ++ s'.tokens := by
  induction h with
  | refl s => rfl
  | step h _ ih => rw [tokens_of_scans h, ih, List.cons_append]

/-- A token is behind the place where its scan starts. -/
lemma Scans.offset_le (h : Scans s t s') : s.offset ≤ s'.offset := by
  obtain ⟨gap, -, -, -, -, hoffset, -⟩ := h.exists_gap
  omega

/-- So are some tokens in a row. -/
lemma Scanner.Passes.offset_le (h : s.Passes ts s') : s.offset ≤ s'.offset := by
  induction h with
  | refl s => exact le_rfl
  | step h _ ih => exact h.offset_le.trans ih

/-- What comes before a place and what is left there are together as long at both ends of a way. -/
lemma Scanner.Passes.offset_add_length (h : s.Passes ts s') :
    s.offset + s.rest.length = s'.offset + s'.rest.length := by
  induction h with
  | refl s => rfl
  | step h _ ih =>
      obtain ⟨gap, hrest, -, -, -, hoffset, -⟩ := h.exists_gap
      rw [← ih, hrest, hoffset, List.length_append]
      omega

/-! ## The same way to a place -/

/-- What is left at a place may be replaced: something else stands there that begins alike, or with a
blank. -/
def Continues (rest more : List Char) : Prop :=
  ∀ c, more.head? = some c → isBlank c = true ∨ rest.head? = some c

/-- What goes on alike does so behind the same front. -/
lemma Continues.append (h : Continues rest more) (front : List Char) :
    Continues (front ++ rest) (front ++ more) := by
  cases front with
  | nil => exact h
  | cons c front => exact fun d hd => .inr hd

/-- More blanks continue what blanks have begun. -/
lemma continues_blanks {blanks : List Char} (hblanks : ∀ c ∈ blanks, isBlank c = true)
    (gap rest : List Char) :
    Continues (gap ++ rest) (gap ++ (blanks ++ rest)) := by
  refine Continues.append (fun c hc => ?_) gap
  cases blanks with
  | nil => exact .inr hc
  | cons d blanks =>
      obtain rfl : d = c := Option.some.inj hc
      exact .inl (hblanks d List.mem_cons_self)

/-- The scanner takes the same token if what follows is replaced. Behind a text there still has to be
an opening bracket. -/
lemma Scans.replace (h : Scans s t s') (hmore : Continues s'.rest more)
    (htext : t.kind = .text → openChars <+: more) :
    ∃ taken, s.rest = taken ++ s'.rest ∧
      Scans ⟨taken ++ more, s.inside, s.offset⟩ t ⟨more, s'.inside, s'.offset⟩ := by
  cases h with
  | openBracket => exact ⟨openChars, rfl, .openBracket⟩
  | @text content cs offset hne hc hr => exact ⟨content, rfl, .text hne hc (.inr (htext rfl))⟩
  | @closeBracket gap cs offset hgap =>
      refine ⟨gap ++ ['%', '}'], by simp, ?_⟩
      rw [List.append_assoc]
      exact .closeBracket hgap
  | @bang gap cs offset hgap =>
      refine ⟨gap ++ ['!'], by simp, ?_⟩
      rw [List.append_assoc]
      exact .bang hgap
  | @word gap c cs rest offset hgap hstart hword hend =>
      refine ⟨gap ++ c :: cs, by simp, ?_⟩
      rw [List.append_assoc]
      refine .word hgap hstart hword ?_
      rintro d ds rfl
      rcases hmore d rfl with hblank | hhead
      · exact isNameChar_of_isBlank hblank
      · obtain ⟨es, hes⟩ := List.head?_eq_some_iff.mp hhead
        exact hend d es hes
  | @invalid gap c cs offset hgap hblank hbang hstart hclose =>
      refine ⟨gap ++ [c], by simp, ?_⟩
      rw [List.append_assoc]
      refine .invalid hgap hblank hbang hstart ?_
      rintro ds rfl rfl
      rcases hmore '}' rfl with hbrace | hhead
      · revert hbrace
        decide
      · obtain ⟨es, hes⟩ := List.head?_eq_some_iff.mp hhead
        exact hclose es rfl hes

/-- Where the scanner takes a text, no opening bracket stands. -/
lemma not_openChars_of_text {content cs : List Char} (hne : content ≠ [])
    (hc : ¬ openChars <:+: content) (hr : cs = [] ∨ openChars <+: cs) :
    ¬ (content ++ cs = [] ∨ openChars <+: content ++ cs) := by
  rintro (hnil | ⟨ds, hds⟩)
  · exact hne (List.append_eq_nil_iff.mp hnil).1
  · have hsplit := splitAtOpen_append_of_not_infix hc hr
    rw [← hds] at hsplit
    exact hne (congrArg Prod.fst hsplit).symm

/-- Behind a text the scanner is outside of directives, at a bracket or at the end. -/
lemma Scans.behind_text (h : Scans s t s') (ht : t.kind = .text) :
    s'.inside = false ∧ (s'.rest = [] ∨ openChars <+: s'.rest) := by
  cases h with
  | text _ _ hr => exact ⟨rfl, hr⟩
  | word _ _ _ _ => exact absurd ht (kind_ofWord_ne (by decide) _)
  | openBracket | closeBracket _ | bang _ | invalid _ _ _ _ _ => cases ht

/-- The way to a place inside of a directive stays the same if what is left there is replaced. If it
begins at an opening bracket, that bracket is still there. -/
lemma Scanner.Passes.replace (h : s.Passes ts s') (hinside : s'.inside = true)
    (hmore : Continues s'.rest more) :
    ∃ taken, s.rest = taken ++ s'.rest ∧
      (⟨taken ++ more, s.inside, s.offset⟩ : Scanner).Passes ts ⟨more, s'.inside, s'.offset⟩ ∧
      (s.inside = false → s.rest = [] ∨ openChars <+: s.rest → openChars <+: taken ++ more) := by
  induction h with
  | refl s => exact ⟨[], rfl, .refl _, fun houtside => absurd houtside (by simp [hinside])⟩
  | @step s s₁ s' t ts h _ ih =>
      obtain ⟨taken₁, hrest₁, hpasses, hopen⟩ := ih hinside hmore
      have hmore₁ : Continues s₁.rest (taken₁ ++ more) := by
        rw [hrest₁]
        exact hmore.append taken₁
      -- behind a text there is a bracket on the way, since the way ends inside of a directive
      have htext (hk : t.kind = .text) : openChars <+: taken₁ ++ more :=
        hopen (h.behind_text hk).1 (h.behind_text hk).2
      obtain ⟨taken, hrest, hscans⟩ := h.replace hmore₁ htext
      refine ⟨taken ++ taken₁, by rw [hrest, hrest₁, List.append_assoc], ?_, ?_⟩
      · rw [List.append_assoc]
        exact .step hscans hpasses
      · intro houtside hstart
        rw [List.append_assoc]
        cases h with
        | openBracket =>
            obtain rfl : taken = openChars := List.append_cancel_right hrest.symm
            exact List.prefix_append _ _
        | text hne hc hr => exact absurd hstart (not_openChars_of_text hne hc hr)
        | closeBracket _ | bang _ | word _ _ _ _ | invalid _ _ _ _ _ => cases houtside

/-! ## Blanks are passed over -/

/-- Scanners with the same next token have the same tokens. -/
lemma tokens_congr (h : s.next? = s'.next?) : s.tokens = s'.tokens := by
  cases hs : s'.next? with
  | none =>
      rw [Scanner.tokens_of_next?_eq_none hs, Scanner.tokens_of_next?_eq_none (h.trans hs)]
  | some next =>
      rw [Scanner.tokens_of_next?_eq_some hs, Scanner.tokens_of_next?_eq_some (h.trans hs)]

/-- Blanks inside of a directive only move what follows. -/
lemma tokens_blanks (hgap : ∀ c ∈ gap, isBlank c = true) (rest : List Char) (offset : Nat) :
    (⟨gap ++ rest, true, offset⟩ : Scanner).tokens =
      (⟨rest, true, offset + gap.length⟩ : Scanner).tokens := by
  refine tokens_congr ?_
  rw [Scanner.next?, Scanner.next?, if_pos rfl, if_pos rfl]
  simp [Scanner.skipBlanks, List.takeWhile_append_of_pos hgap, List.dropWhile_append_of_pos hgap,
    Nat.add_assoc]

/-! ## Positions -/

/-- What a position becomes when some characters are put in at an offset. -/
def movedPosition (offset n : Nat) (position : Int) : Int :=
  if (offset : Int) < position then position + n else position

/-- What a token becomes when some characters are put in at an offset, not within the token. -/
def Token.moved (offset n : Nat) (t : Token) : Token :=
  if t.kind = .invalid then { t with position := movedPosition offset n t.position } else t

/-- What a syntax error becomes: the column of an invalid character changes. -/
def SyntaxError.moved (offset n : Nat) : SyntaxError → SyntaxError
  | .invalidCharacter value position => .invalidCharacter value (movedPosition offset n position)
  | e => e

/-- What a rendering error becomes. -/
def RenderError.moved (offset n : Nat) : RenderError → RenderError
  | .syntaxError e => .syntaxError (e.moved offset n)
  | e => e

/-- Only an invalid character has a position. -/
lemma moved_of_kind_ne (h : t.kind ≠ .invalid) : t.moved offset n = t :=
  if_neg h

@[simp] lemma moved_invalid (c : Char) (position : Int) :
    (Token.invalid c position).moved offset n = .invalid c (movedPosition offset n position) :=
  rfl

@[simp] lemma moved_ofWord (word : String) :
    (Token.ofWord word).moved offset n = .ofWord word :=
  moved_of_kind_ne (kind_ofWord_ne (by decide) word)

/-- A token in front of the offset stays. -/
lemma Scans.moved_eq (h : Scans s t s') (hs : s'.offset ≤ offset) : t.moved offset n = t := by
  cases h with
  | openBracket | text _ _ _ | closeBracket _ | bang _ => rfl
  | word _ _ _ _ => exact moved_ofWord _
  | invalid hgap _ _ _ _ =>
      dsimp only at hs
      rw [moved_invalid, movedPosition, if_neg (by omega)]

/-- Tokens before the place of an insertion are not moved. -/
lemma Scanner.Passes.map_moved (h : s.Passes ts s') (hs : s'.offset ≤ offset) :
    ts.map (Token.moved offset n) = ts := by
  induction h with
  | refl s => rfl
  | step h htail ih => rw [List.map_cons, h.moved_eq (htail.offset_le.trans hs), ih hs]

/-- The same token is scanned to an offset that is given in another way. -/
lemma Scans.of_offset {inside : Bool} {offset offset' : Nat} (h : Scans s t ⟨rest, inside, offset⟩)
    (hoffset : offset = offset') : Scans s t ⟨rest, inside, offset'⟩ :=
  hoffset ▸ h

/-- A token behind the offset moves with the place where it stands. -/
lemma Scans.moved (h : Scans s t s') (hs : offset ≤ s.offset) (n : Nat) :
    Scans ⟨s.rest, s.inside, s.offset + n⟩ (t.moved offset n)
      ⟨s'.rest, s'.inside, s'.offset + n⟩ := by
  cases h with
  | openBracket => exact Scans.openBracket.of_offset (by dsimp only; omega)
  | text hne hc hr => exact (Scans.text hne hc hr).of_offset (by dsimp only; omega)
  | closeBracket hgap => exact (Scans.closeBracket hgap).of_offset (by dsimp only; omega)
  | bang hgap => exact (Scans.bang hgap).of_offset (by dsimp only; omega)
  | word hgap hstart hword hend =>
      rw [moved_ofWord]
      exact (Scans.word hgap hstart hword hend).of_offset (by dsimp only; omega)
  | @invalid gap c cs start hgap hblank hbang hstart hclose =>
      dsimp only at hs
      have hposition : movedPosition offset n ((start : Int) + gap.length + 1) =
          ((start + n : Nat) : Int) + gap.length + 1 := by
        rw [movedPosition, if_pos (by omega)]
        omega
      rw [moved_invalid, hposition]
      exact (Scans.invalid hgap hblank hbang hstart hclose).of_offset (by dsimp only; omega)

/-- The tokens behind the offset move together. -/
lemma tokens_moved (s : Scanner) (hs : offset ≤ s.offset) (n : Nat) :
    (⟨s.rest, s.inside, s.offset + n⟩ : Scanner).tokens = s.tokens.map (Token.moved offset n) := by
  induction s using scanner_induction with
  | done s h =>
      have hend : (⟨s.rest, s.inside, s.offset + n⟩ : Scanner).next? = none := by
        rw [next?_eq_none_iff] at h ⊢
        exact h
      rw [Scanner.tokens_of_next?_eq_none h, Scanner.tokens_of_next?_eq_none hend, List.map_nil]
  | scan s t s' h ih =>
      rw [tokens_of_scans h, tokens_of_scans (h.moved hs n), List.map_cons,
        ih (hs.trans h.offset_le)]

/-! ## Errors -/

/-- The effect of a token does not depend on positions; they only show in the error. -/
lemma step_moved (p : Progress) (t : Token) (offset n : Nat) :
    p.step (t.moved offset n) = (p.step t).mapError (SyntaxError.moved offset n) := by
  by_cases hk : t.kind = .invalid
  · obtain ⟨kind, value, position⟩ := t
    obtain rfl : kind = .invalid := hk
    obtain ⟨block, os, expecting⟩ := p
    cases expecting <;> rfl
  · rw [moved_of_kind_ne hk]
    cases hstep : p.step t with
    | ok q => rfl
    | error e =>
        have he := error_of_step hstep
        rw [if_neg hk] at he
        rw [he]
        split <;> rfl

/-- Nor does the error at the end. -/
lemma finish_moved (p : Progress) (offset n : Nat) :
    p.finish.mapError (SyntaxError.moved offset n) = p.finish := by
  cases hfinish : p.finish with
  | ok S => rfl
  | error e =>
      rw [error_of_finish hfinish]
      split <;> rfl

/-- So reading gives the same statements, or the same error up to its column. -/
lemma readFrom_moved (p : Progress) (ts : List Token) (offset n : Nat) :
    (readFrom p (ts.map (Token.moved offset n))).1 =
      (readFrom p ts).1.mapError (SyntaxError.moved offset n) := by
  induction ts generalizing p with
  | nil => exact (finish_moved p offset n).symm
  | cons t ts ih =>
      rw [List.map_cons, readFrom, readFrom, step_moved]
      cases p.step t with
      | ok q => exact ih q
      | error e => rfl

/-! ## More blanks -/

/-- A place between tokens is reached over the same tokens if blanks are put in there. -/
lemma tokenize_of_betweenTokens {front back blanks : String} (hplace : BetweenTokens front back)
    (hblanks : ∀ c ∈ blanks.toList, isBlank c = true) :
    tokenize (front ++ blanks ++ back) =
      (tokenize (front ++ back)).map (Token.moved front.length blanks.length) := by
  obtain ⟨ts, ⟨rest, inside, offset⟩, gap, hpasses, hinside, hrest, hgap⟩ := hplace
  obtain rfl : inside = true := hinside
  obtain rfl : rest = gap ++ back.toList := hrest
  have hcontinues := continues_blanks hblanks gap back.toList
  obtain ⟨taken, htaken, hreplaced, -⟩ := hpasses.replace rfl hcontinues
  have hfront : front.toList = taken ++ gap := by
    rw [Scanner.start, String.toList_append, ← List.append_assoc] at htaken
    exact List.append_cancel_right htaken
  have hlength : offset + gap.length = front.length := by
    have hcount := hpasses.offset_add_length
    simp only [Scanner.start, String.toList_append, List.length_append, String.length_toList]
      at hcount
    omega
  have hspaced : Scanner.start (front ++ blanks ++ back) =
      ⟨taken ++ (gap ++ (blanks.toList ++ back.toList)), false, 0⟩ := by
    rw [Scanner.start, String.toList_append, String.toList_append, hfront]
    simp only [List.append_assoc]
  calc tokenize (front ++ blanks ++ back)
      = ts ++ (⟨gap ++ (blanks.toList ++ back.toList), true, offset⟩ : Scanner).tokens := by
        rw [tokenize, hspaced]
        exact tokens_of_passes hreplaced
    _ = ts ++ (⟨back.toList, true, front.length + blanks.length⟩ : Scanner).tokens := by
        rw [tokens_blanks hgap, tokens_blanks hblanks, hlength, String.length_toList]
    _ = ts ++ (⟨back.toList, true, front.length⟩ : Scanner).tokens.map
          (Token.moved front.length blanks.length) := by
        rw [← tokens_moved ⟨back.toList, true, front.length⟩ le_rfl blanks.length]
    _ = (ts ++ (⟨back.toList, true, front.length⟩ : Scanner).tokens).map
          (Token.moved front.length blanks.length) := by
        rw [List.map_append, hpasses.map_moved (by dsimp only; omega)]
    _ = (tokenize (front ++ back)).map (Token.moved front.length blanks.length) := by
        rw [tokenize, tokens_of_passes hpasses, tokens_blanks hgap, hlength]

/-- **Blanks inside of directives mean nothing.** At any place of a template that lies in a directive
and not within a token, any blanks may be put in: the tokens stay the same, except that those invalid
characters that stand behind the place report a position that is larger by the number of blanks. So the
template parses and renders as before, up to the column of an invalid character. -/
theorem tokenize_insert_blanks (front back blanks : String) (hplace : BetweenTokens front back)
    (hblanks : ∀ c ∈ blanks.toList, isBlank c = true) :
    tokenize (front ++ blanks ++ back) =
        (tokenize (front ++ back)).map (Token.moved front.length blanks.length) ∧
      parse (front ++ blanks ++ back) =
        (parse (front ++ back)).mapError (SyntaxError.moved front.length blanks.length) ∧
      ∀ m, render (front ++ blanks ++ back) m =
        (render (front ++ back) m).mapError (RenderError.moved front.length blanks.length) := by
  have htokens := tokenize_of_betweenTokens hplace hblanks
  have hparse : parse (front ++ blanks ++ back) =
      (parse (front ++ back)).mapError (SyntaxError.moved front.length blanks.length) := by
    rw [parse, htokens]
    exact readFrom_moved {} _ _ _
  refine ⟨htokens, hparse, fun m => ?_⟩
  rw [render, render, hparse]
  cases parse (front ++ back) with
  | error e => rfl
  | ok S =>
      dsimp only [Except.mapError]
      cases evaluateAll m S with
      | error e => rfl
      | ok text => rfl

/-- Text, and a directive up to a name, with a character in it that is invalid. -/
def strayFront : String := "a\x7b%9x"

/-- The rest of that template, with a `%` that does not end the directive. -/
def strayBack : String := "% \x7d"

/-- Blanks are put in front of two invalid characters, which move on. The one before stays, and is
reported. -/
theorem tokenize_insert_blanks_stray :
    BetweenTokens strayFront strayBack ∧
      tokenize (strayFront ++ strayBack) =
        [.text "a", .openBracket, .invalid '9' 4, .ofName "x", .invalid '%' 6, .invalid '\x7d' 8] ∧
      tokenize (strayFront ++ "\u3000\n" ++ strayBack) =
        [.text "a", .openBracket, .invalid '9' 4, .ofName "x", .invalid '%' 8,
          .invalid '\x7d' 10] ∧
      parse (strayFront ++ "\u3000\n" ++ strayBack) = .error (.invalidCharacter "9" 4) := by
  have htext : Scans (Scanner.start (strayFront ++ strayBack)) (.text "a")
      ⟨"\x7b%9x% \x7d".toList, false, 1⟩ := scans_of_next? (by decide)
  have hopen : Scans ⟨"\x7b%9x% \x7d".toList, false, 1⟩ .openBracket
      ⟨"9x% \x7d".toList, true, 3⟩ := scans_of_next? (by decide)
  have hdigit : Scans ⟨"9x% \x7d".toList, true, 3⟩ (.invalid '9' 4) ⟨"x% \x7d".toList, true, 4⟩ :=
    scans_of_next? (by decide)
  have hname : Scans ⟨"x% \x7d".toList, true, 4⟩ (.ofName "x") ⟨"% \x7d".toList, true, 5⟩ :=
    scans_of_next? (by decide)
  have hplace : BetweenTokens strayFront strayBack :=
    ⟨_, _, [], .step htext (.step hopen (.step hdigit (.step hname (.refl _)))), rfl, rfl, by simp⟩
  have htokens : tokenize (strayFront ++ strayBack) =
      [.text "a", .openBracket, .invalid '9' 4, .ofName "x", .invalid '%' 6,
        .invalid '\x7d' 8] := by decide +kernel
  obtain ⟨hspaced, hparse, -⟩ :=
    tokenize_insert_blanks strayFront strayBack "\u3000\n" hplace
      (List.all_eq_true.mp (by decide))
  refine ⟨hplace, htokens, ?_, ?_⟩
  · rw [hspaced, htokens]
    rfl
  · rw [hparse, parse, htokens]
    rfl

end Scaffold.Template
