import Mathlib.Tactic.Lemma
import Scaffold.Proofs.Template.Grammar
import Scaffold.Proofs.Template.Printing

/-!
# What lists of tokens a template can have

Positions aside, which depend on the blanks in directives, the lists of tokens that scanning can give
are known by a few conditions, none of which mentions the scanner.

* `Token.IsProper`: a token holds what its kind asks for, and nothing else. `Token.Known` says the
  same by the ways in which tokens are built.
* `WellFormed`: brackets take turns, texts stand outside of directives and apart from each other,
  everything else stands inside. `wellFormed_cons` takes a list apart at its first token.
* `wellFormed_tokens`: whatever is scanned is well formed, token by token.
* `spell`: characters for a list of tokens, with a blank before each token inside of a directive, so
  that no two of them grow together. `tokens_spell` scans them.
* `exists_tokenize_iff`: the lists of tokens of templates are the well-formed lists.
-/

namespace Scaffold.Template

open Text (isBlank)

variable {s s' : Scanner} {t : Token} {ts us : List Token} {inside : Bool}

/-! ## Proper tokens -/

/-- The token without the position of an invalid character. -/
def Token.unplaced (t : Token) : Token :=
  if t.kind = .invalid then { t with position := 0 } else t

/-- The token holds what its kind asks for: a text its content, a variable its name, an invalid token
one character that neither is blank nor begins anything. No other token holds a value, and none but
an invalid one a position. -/
def Token.IsProper (t : Token) : Prop :=
  match t.kind with
  | .text => IsTextContent t.value ∧ t.position = 0
  | .variable => IsVariableName t.value ∧ t.position = 0
  | .invalid => ∃ c, t.value = String.singleton c ∧
      isBlank c = false ∧ c ≠ '!' ∧ isNameStart c = false
  | _ => t.value = "" ∧ t.position = 0

@[simp] lemma kind_unplaced (t : Token) : t.unplaced.kind = t.kind := by
  unfold Token.unplaced
  split <;> rfl

@[simp] lemma leads_unplaced (t : Token) (inside : Bool) :
    t.unplaced.leads inside = t.leads inside := by
  simp [Token.leads]

/-- Whether a token is proper does not depend on where an invalid character stands. -/
@[simp] lemma isProper_unplaced (t : Token) : t.unplaced.IsProper ↔ t.IsProper := by
  unfold Token.unplaced
  split
  · rename_i hk
    simp [Token.IsProper, hk]
  · rfl

/-- The tokens that scanning can give, by the way in which they are built. -/
inductive Token.Known : Token → Prop
  | openBracket : Known .openBracket
  | closeBracket : Known .closeBracket
  | bang : Known .bang
  | text {content} (hc : IsTextContent content) : Known (.text content)
  | word {w} (hw : IsWord w) : Known (.ofWord w)
  | invalid {c position} (hblank : isBlank c = false) (hbang : c ≠ '!')
      (hstart : isNameStart c = false) : Known (.invalid c position)

/-- A proper token can be built. -/
lemma Token.IsProper.known (h : t.IsProper) : t.Known := by
  obtain ⟨kind, value, position⟩ := t
  have hword {w : String} (hw : w ∈ ["if", "else", "endif"]) : (Token.ofWord w).Known :=
    .word (isWord_of_keyword hw)
  cases kind with
  | openBracket | closeBracket | bang =>
      obtain ⟨rfl, rfl⟩ := h
      constructor
  | ifWord =>
      obtain ⟨rfl, rfl⟩ := h
      exact hword (w := "if") (by simp)
  | elseWord =>
      obtain ⟨rfl, rfl⟩ := h
      exact hword (w := "else") (by simp)
  | endifWord =>
      obtain ⟨rfl, rfl⟩ := h
      exact hword (w := "endif") (by simp)
  | «variable» =>
      obtain ⟨hname, rfl⟩ := h
      have := Known.word hname.1
      rwa [ofWord_of_not_mem hname.2] at this
  | text =>
      obtain ⟨hc, rfl⟩ := h
      exact .text hc
  | invalid =>
      obtain ⟨c, rfl, hblank, hbang, hstart⟩ := h
      exact .invalid hblank hbang hstart

/-- What can be built is proper. -/
lemma Token.Known.isProper (h : t.Known) : t.IsProper := by
  cases h with
  | openBracket | closeBracket | bang => exact ⟨rfl, rfl⟩
  | text hc => exact ⟨hc, rfl⟩
  | @word w hw =>
      by_cases hkeyword : w ∈ ["if", "else", "endif"]
      · simp only [List.mem_cons, List.not_mem_nil, or_false] at hkeyword
        rcases hkeyword with rfl | rfl | rfl <;> exact ⟨rfl, rfl⟩
      · rw [ofWord_of_not_mem hkeyword]
        exact ⟨⟨hw, hkeyword⟩, rfl⟩
  | invalid hblank hbang hstart => exact ⟨_, rfl, hblank, hbang, hstart⟩

/-- What is scanned can be built. -/
lemma Scans.known (h : Scans s t s') : t.Known := by
  cases h with
  | openBracket | closeBracket | bang => constructor
  | text hne hc _ => exact .text ⟨by simpa using hne, by simpa using hc⟩
  | word _ hstart hword _ => exact .word ⟨_, _, String.toList_ofList, hstart, hword⟩
  | invalid _ hblank hbang hstart _ => exact .invalid hblank hbang hstart

/-! ## Well-formed lists -/

/-- The tokens that stand outside of directives: texts, and brackets that lead into one. -/
def Token.StandsOutside (t : Token) : Prop :=
  t.kind = .text ∨ t.kind = .openBracket

/-- The kinds of the brackets in a list of tokens. -/
def bracketKinds (ts : List Token) : List Token.Kind :=
  (ts.filter Token.isBracket).map Token.kind

/-- The bracket that a place inside or outside of directives comes after. -/
def lastBracket (inside : Bool) : Token.Kind :=
  if inside then .openBracket else .closeBracket

/-- A list of tokens as it can follow at a place inside or outside of directives: every token is
proper, the brackets take turns, texts stand outside of directives and all but texts and brackets
inside, and no text follows directly on a text. -/
structure WellFormed (inside : Bool) (ts : List Token) : Prop where
  proper : ∀ t ∈ ts, t.IsProper
  alternate : (lastBracket inside :: bracketKinds ts).IsChain (· ≠ ·)
  text_outside : ∀ before t after, ts = before ++ t :: after → t.kind = .text →
    insideAfter inside before = false
  others_inside : ∀ before t after, ts = before ++ t :: after →
    t.kind ≠ .text ∧ t.isBracket = false → insideAfter inside before = true
  texts_apart : ¬ [Token.Kind.text, .text] <:+: ts.map Token.kind

/-- No tokens are well formed. -/
lemma wellFormed_nil (inside : Bool) : WellFormed inside [] := by
  refine ⟨by simp, ?_, by simp, by simp, by simp⟩
  simp [bracketKinds]

/-- The place of a token, told by the first token of a list. -/
lemma forall_split_cons {p : Token → Prop} {q : Bool → Prop} :
    (∀ before u after, t :: ts = before ++ u :: after → p u → q (insideAfter inside before)) ↔
      (p t → q inside) ∧ ∀ before u after, ts = before ++ u :: after → p u →
        q (insideAfter (t.leads inside) before) := by
  constructor
  · intro h
    refine ⟨h [] t ts rfl, fun before u after hts hu => ?_⟩
    exact h (t :: before) u after (by rw [hts]; rfl) hu
  · rintro ⟨ht, hts⟩ before u after heq hu
    cases before with
    | nil =>
        obtain ⟨rfl, -⟩ := List.cons.inj heq
        exact ht hu
    | cons v before =>
        obtain ⟨rfl, htail⟩ := List.cons.inj heq
        exact hts before u after htail hu

/-- The brackets take turns from the first token on. -/
lemma isChain_bracketKinds_cons :
    (lastBracket inside :: bracketKinds (t :: ts)).IsChain (· ≠ ·) ↔
      (t.kind = .openBracket → inside = false) ∧ (t.kind = .closeBracket → inside = true) ∧
        (lastBracket (t.leads inside) :: bracketKinds ts).IsChain (· ≠ ·) := by
  obtain ⟨kind, value, position⟩ := t
  cases kind <;> cases inside <;>
    simp [bracketKinds, Token.isBracket, Token.leads, lastBracket]

/-- A well-formed list, taken apart at its first token. -/
lemma wellFormed_cons : WellFormed inside (t :: ts) ↔
    t.IsProper ∧ (t.StandsOutside ↔ inside = false) ∧
      (t.kind = .text → ∀ u ∈ ts.head?, u.kind ≠ .text) ∧ WellFormed (t.leads inside) ts := by
  have hplace : (t.StandsOutside ↔ inside = false) ↔
      ((t.kind = .openBracket → inside = false) ∧ (t.kind = .closeBracket → inside = true)) ∧
        (t.kind = .text → inside = false) ∧
        (t.kind ≠ .text ∧ t.isBracket = false → inside = true) := by
    unfold Token.StandsOutside Token.isBracket
    cases t.kind <;> cases inside <;> simp
  have hapart : [Token.Kind.text, .text] <:+: (t :: ts).map Token.kind ↔
      (t.kind = .text ∧ ∃ u ∈ ts.head?, u.kind = .text) ∨
        [Token.Kind.text, .text] <:+: ts.map Token.kind := by
    rw [List.map_cons, List.infix_cons_iff, List.cons_prefix_cons]
    cases ts with
    | nil => simp
    | cons u us => simp [eq_comm]
  constructor
  · rintro ⟨hproper, halternate, htext, hothers, htexts⟩
    obtain ⟨ht, hproper⟩ := List.forall_mem_cons.mp hproper
    obtain ⟨hopen, hclose, halternate⟩ := isChain_bracketKinds_cons.mp halternate
    obtain ⟨houtside, htext⟩ := (forall_split_cons (q := (· = false))).mp htext
    obtain ⟨hinside, hothers⟩ := (forall_split_cons (q := (· = true))).mp hothers
    rw [hapart, not_or] at htexts
    refine ⟨ht, hplace.mpr ⟨⟨hopen, hclose⟩, houtside, hinside⟩, ?_,
      hproper, halternate, htext, hothers, htexts.2⟩
    intro hk u hu hu'
    exact htexts.1 ⟨hk, u, hu, hu'⟩
  · rintro ⟨ht, hstands, hnext, hproper, halternate, htext, hothers, htexts⟩
    obtain ⟨⟨hopen, hclose⟩, houtside, hinside⟩ := hplace.mp hstands
    constructor
    · exact List.forall_mem_cons.mpr ⟨ht, hproper⟩
    · exact isChain_bracketKinds_cons.mpr ⟨hopen, hclose, halternate⟩
    · exact (forall_split_cons (q := (· = false))).mpr ⟨houtside, htext⟩
    · exact (forall_split_cons (q := (· = true))).mpr ⟨hinside, hothers⟩
    · rw [hapart, not_or]
      refine ⟨?_, htexts⟩
      rintro ⟨hk, u, hu, hu'⟩
      exact hnext hk u hu hu'

/-- Well-formedness does not depend on where invalid characters stand. -/
lemma wellFormed_map_unplaced :
    WellFormed inside (ts.map Token.unplaced) ↔ WellFormed inside ts := by
  induction ts generalizing inside with
  | nil => rfl
  | cons t ts ih =>
      rw [List.map_cons, wellFormed_cons, wellFormed_cons, leads_unplaced, ih]
      simp [Token.StandsOutside]

/-! ## What is scanned is well formed -/

/-- A word does not stand where texts do. -/
lemma not_standsOutside_ofWord (w : String) : ¬ (Token.ofWord w).StandsOutside := by
  have hk := kind_ofWord w
  unfold Token.StandsOutside
  generalize (Token.ofWord w).kind = kind at hk
  simp only [List.mem_cons, List.not_mem_nil, or_false] at hk
  rcases hk with rfl | rfl | rfl | rfl <;> simp

/-- Texts and opening brackets are scanned outside of directives, and nothing else is. -/
lemma Scans.standsOutside_iff (h : Scans s t s') : t.StandsOutside ↔ s.inside = false := by
  cases h with
  | openBracket | text | closeBracket | bang | invalid =>
      simp [Token.StandsOutside, Token.openBracket, Token.text, Token.closeBracket, Token.bang,
        Token.invalid]
  | word => simp [not_standsOutside_ofWord]

/-- What is scanned behind a text is no text. -/
lemma Scans.not_text_behind (h : Scans s t s') (ht : t.kind = .text) :
    ∀ u ∈ s'.tokens.head?, u.kind ≠ .text := by
  intro u hu
  cases h with
  | @text content cs offset hne hc hr =>
      rcases hr with rfl | ⟨ds, rfl⟩
      · have hend : (⟨[], false, offset + content.length⟩ : Scanner).tokens = [] :=
          Scanner.tokens_of_next?_eq_none rfl
        simp [hend] at hu
      · have hbracket : (⟨openChars ++ ds, false, offset + content.length⟩ : Scanner).tokens = _ :=
          tokens_of_scans .openBracket
        obtain rfl : Token.openBracket = u := by simpa [hbracket] using hu
        simp [Token.openBracket]
  | @word gap c cs =>
      have hk := kind_ofWord (String.ofList (c :: cs))
      rw [ht] at hk
      simp at hk
  | openBracket | closeBracket | bang | invalid => simp [Token.openBracket, Token.closeBracket,
      Token.bang, Token.invalid] at ht

/-- The tokens from a place on are well formed there. -/
lemma wellFormed_tokens (s : Scanner) : WellFormed s.inside s.tokens := by
  induction s using scanner_induction with
  | done s h =>
      rw [Scanner.tokens_of_next?_eq_none h]
      exact wellFormed_nil s.inside
  | scan s t s' h ih =>
      obtain ⟨gap, -, -, -, hleads, -⟩ := h.exists_gap
      rw [tokens_of_scans h, wellFormed_cons, ← hleads]
      exact ⟨h.known.isProper, h.standsOutside_iff, h.not_text_behind, ih⟩

/-! ## Tokens spelled out -/

/-- Characters for a list of tokens: a blank in front of each token inside of a directive, so that it
does not grow together with the one before it. -/
def spell (inside : Bool) : List Token → List Char
  | [] => []
  | t :: ts => (if inside then [' '] else []) ++ t.lexeme ++ spell (t.leads inside) ts

/-- What follows inside of a directive is nothing or a blank. -/
lemma spell_inside (ts : List Token) : spell true ts = [] ∨ ∃ cs, spell true ts = ' ' :: cs := by
  cases ts with
  | nil => exact .inl rfl
  | cons t ts => exact .inr ⟨_, rfl⟩

/-- What follows outside of directives is nothing, a bracket or a text. -/
lemma spell_outside (h : WellFormed false ts) (hhead : ∀ u ∈ ts.head?, u.kind ≠ .text) :
    spell false ts = [] ∨ openChars <+: spell false ts := by
  cases ts with
  | nil => exact .inl rfl
  | cons t ts =>
      obtain ⟨-, hstands, -⟩ := wellFormed_cons.mp h
      have hopen : t.kind = .openBracket := (hstands.mpr rfl).resolve_left (hhead t rfl)
      refine .inr ⟨spell (t.leads false) ts, ?_⟩
      simp [spell, Token.lexeme, hopen, openChars]

/-- The first of the tokens that are spelled out is scanned, up to the position of an invalid one. -/
lemma exists_scans_spell (h : WellFormed inside (t :: ts)) (offset : Nat) :
    ∃ t' offset', t'.unplaced = t.unplaced ∧ Scans ⟨spell inside (t :: ts), inside, offset⟩ t'
      ⟨spell (t.leads inside) ts, t.leads inside, offset'⟩ := by
  obtain ⟨hproper, hstands, hnext, hrest⟩ := wellFormed_cons.mp h
  have outside (ht : t.StandsOutside) : inside = false := hstands.mp ht
  have within (ht : ¬ t.StandsOutside) : inside = true := by simpa [hstands] using ht
  cases hproper.known with
  | openBracket =>
      obtain rfl := outside (.inr rfl)
      exact ⟨_, _, rfl, .openBracket⟩
  | closeBracket =>
      obtain rfl := within (by simp [Token.StandsOutside, Token.closeBracket])
      exact ⟨_, _, rfl, .closeBracket isBlank_space⟩
  | bang =>
      obtain rfl := within (by simp [Token.StandsOutside, Token.bang])
      exact ⟨_, _, rfl, .bang isBlank_space⟩
  | text hcontent =>
      obtain rfl := outside (.inl rfl)
      have hscan : Scans ⟨_, false, offset⟩ _ _ := .text (by simpa using hcontent.1) hcontent.2
        (spell_outside hrest (hnext rfl))
      rw [String.ofList_toList] at hscan
      exact ⟨_, _, rfl, hscan⟩
  | @word w hw =>
      obtain rfl := within (not_standsOutside_ofWord w)
      obtain ⟨c, cs, hcs, hstart, hword⟩ := hw
      have hend : EndsWord (spell true ts) := by
        rcases spell_inside ts with hnil | ⟨ds, hds⟩
        · rw [hnil]
          intro d ds h
          cases h
        · rw [hds]
          exact endsWord_space ds
      have hscan : Scans ⟨_, true, offset⟩ _ _ := .word isBlank_space hstart hword hend
      rw [← hcs, String.ofList_toList] at hscan
      exact ⟨.ofWord w, _, rfl, by simpa [spell, leads_ofWord] using hscan⟩
  | @invalid c position hblank hbang hstart =>
      obtain rfl := within (by simp [Token.StandsOutside, Token.invalid])
      have hclose : ∀ ds, c = '%' → spell true ts = '}' :: ds → False := by
        intro ds _ hds
        rcases spell_inside ts with hnil | ⟨es, hes⟩
        · simp [hnil] at hds
        · simp [hes] at hds
      have hscan : Scans ⟨_, true, offset⟩ _ _ :=
        .invalid isBlank_space hblank hbang hstart hclose
      refine ⟨.invalid c (offset + 1 + 1), offset + 1 + 1, rfl, ?_⟩
      simpa [spell, Token.lexeme, Token.invalid, Token.leads] using hscan

/-- What is spelled out is scanned as the tokens that it was made from. -/
lemma tokens_spell (h : WellFormed inside ts) (offset : Nat) :
    (⟨spell inside ts, inside, offset⟩ : Scanner).tokens.map Token.unplaced =
      ts.map Token.unplaced := by
  induction ts generalizing inside offset with
  | nil =>
      have hend : (⟨spell inside [], inside, offset⟩ : Scanner).tokens = [] :=
        Scanner.tokens_of_next?_eq_none (next?_eq_none_iff.mpr (.inl rfl))
      rw [hend]
  | cons t ts ih =>
      obtain ⟨t', offset', ht, hscan⟩ := exists_scans_spell h offset
      obtain ⟨-, -, -, hrest⟩ := wellFormed_cons.mp h
      rw [tokens_of_scans hscan, List.map_cons, List.map_cons, ht, ih hrest]

/-- **The lists of tokens of templates.** A list of tokens is what some template is scanned into, but
for the positions of invalid characters, exactly when it is well formed: opening and closing brackets
take turns, beginning with an opening one, and the last may stay open; texts stand outside of
directives, are not empty, hold no opening bracket, and none follows directly on another; everything
else stands inside of directives; variables are words that are no keywords; an invalid token is one
character that is not blank, no `!` and no start of a name. -/
theorem exists_tokenize_iff (ts : List Token) :
    (∃ template, (tokenize template).map Token.unplaced = ts.map Token.unplaced) ↔
      WellFormed false ts := by
  constructor
  · rintro ⟨template, htokens⟩
    rw [← wellFormed_map_unplaced, ← htokens, wellFormed_map_unplaced]
    exact wellFormed_tokens (Scanner.start template)
  · intro h
    refine ⟨String.ofList (spell false ts), ?_⟩
    rw [tokenize, Scanner.start, String.toList_ofList]
    exact tokens_spell h 0

end Scaffold.Template
