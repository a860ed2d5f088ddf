import Mathlib.Tactic.Lemma
import Scaffold.Proofs.Template.Shape

/-!
# Templates put together

Where a template ends outside of directives, another one can be put behind it. The scanner starts
afresh there, except that a text at the end of the first template and one at the start of the second
are scanned as one.

* `advance_of_parse`: the tokens of a template read as its statements at any place and in any block.
* `EndsOutside`: a template ends outside of directives. `Joins`: where two templates meet, no bracket
  arises.
* `exists_tokens_append`: the tokens of two templates that are put together.
* `parse_append`: the statements of two templates that are put together, up to a text at the seam.
* `render_append_and_text`: what two templates render to that are put together.
-/

namespace Scaffold.Template

variable {s s' : Scanner} {t : Token} {ts us : List Token} {S T : List Statement}
  {block : List Statement} {os : List OpenConditional} {more : List Char} {a b x y : String}

/-! ## The same tokens elsewhere -/

/-- A token is the same at another place, but for the position of an invalid character. -/
lemma Scans.move (h : Scans s t s') (offset : Nat) :
    ∃ t' offset', t'.unplaced = t.unplaced ∧
      Scans ⟨s.rest, s.inside, offset⟩ t' ⟨s'.rest, s'.inside, offset'⟩ := by
  cases h with
  | openBracket => exact ⟨_, _, rfl, .openBracket⟩
  | text hne hc hr => exact ⟨_, _, rfl, .text hne hc hr⟩
  | closeBracket hgap => exact ⟨_, _, rfl, .closeBracket hgap⟩
  | bang hgap => exact ⟨_, _, rfl, .bang hgap⟩
  | word hgap hstart hword hend => exact ⟨_, _, rfl, .word hgap hstart hword hend⟩
  | @invalid gap c cs _ hgap hblank hbang hstart hclose =>
      exact ⟨.invalid c (offset + gap.length + 1), _, rfl,
        .invalid hgap hblank hbang hstart hclose⟩

/-- The tokens of the same characters at another place are the same, but for the positions of invalid
characters. -/
lemma unplaced_tokens (s : Scanner) (offset : Nat) :
    (⟨s.rest, s.inside, offset⟩ : Scanner).tokens.map Token.unplaced =
      s.tokens.map Token.unplaced := by
  induction s using scanner_induction generalizing offset with
  | done s h =>
      have hend : (⟨s.rest, s.inside, offset⟩ : Scanner).next? = none := by
        rw [next?_eq_none_iff] at h ⊢
        exact h
      rw [Scanner.tokens_of_next?_eq_none h, Scanner.tokens_of_next?_eq_none hend]
  | scan s t s' h ih =>
      obtain ⟨t', offset', hsame, h'⟩ := h.move offset
      rw [tokens_of_scans h, tokens_of_scans h', List.map_cons, List.map_cons, hsame, ih]

/-- A token without its position is bare as before. -/
lemma bare_unplaced (t : Token) : t.unplaced.bare = t.bare := by
  unfold Token.unplaced
  split
  · rename_i hk
    simp [Token.bare, hk]
  · rfl

/-- Tokens that are the same but for the positions of invalid characters are the same for the grammar. -/
lemma bare_of_unplaced (h : us.map Token.unplaced = ts.map Token.unplaced) :
    us.map Token.bare = ts.map Token.bare := by
  have hbare := congrArg (List.map Token.bare) h
  simpa only [List.map_map, Function.comp_def, bare_unplaced] using hbare

/-- Where a scanner starts to count makes no difference to its bare tokens. -/
lemma bare_tokens (s : Scanner) (offset : Nat) :
    (⟨s.rest, s.inside, offset⟩ : Scanner).tokens.map Token.bare = s.tokens.map Token.bare :=
  bare_of_unplaced (unplaced_tokens s offset)

/-- The kinds of bare tokens are the kinds of the tokens. -/
lemma kinds_of_bare (h : us.map Token.bare = ts.map Token.bare) :
    us.map Token.kind = ts.map Token.kind := by
  have hkinds := congrArg (List.map Token.kind) h
  simpa only [List.map_map, Function.comp_def, bare_kind] using hkinds

/-- What is the same without positions has the same essence. -/
lemma essence_of_bare (h : us.map Token.bare = ts.map Token.bare) : essence us = essence ts := by
  have hessence (ts : List Token) :
      essence ts = (ts.map Token.bare).filter (!·.isBracket) := by
    rw [essence, List.filter_map]
    congr 1
    refine List.filter_congr fun t _ => ?_
    simp [Token.isBracket, bare_kind]
  rw [hessence us, h, ← hessence ts]

/-- Tokens that read as some statements do so in any block, and so do those that are the same for the
grammar. -/
lemma advance_of_readStatements (h : (readStatements ts).1 = .ok S)
    (hbare : us.map Token.bare = ts.map Token.bare) (block : List Statement)
    (os : List OpenConditional) :
    advance ⟨block, os, .statement⟩ us = .ok ⟨block ++ S, os, .statement⟩ := by
  have hheaders : KindsBare (us.map Token.kind) := by
    rw [kinds_of_bare hbare]
    exact headersBare_of_advance (readStatements_eq_ok.mp h)
  refine advance_of_advance_essence hheaders ?_
  rw [essence_of_bare hbare, essence_of_readStatements h]
  exact advance_linearizeAll (genuine_of_readStatements h) block os

/-- The tokens of a template read as its statements at any place and in any block. -/
lemma advance_of_parse (h : parse a = .ok S) (offset : Nat) (block : List Statement)
    (os : List OpenConditional) :
    advance ⟨block, os, .statement⟩ (⟨a.toList, false, offset⟩ : Scanner).tokens =
      .ok ⟨block ++ S, os, .statement⟩ :=
  advance_of_readStatements h (bare_tokens (Scanner.start a) offset) block os

/-! ## Where two templates meet -/

/-- A template ends outside of directives. -/
def EndsOutside (template : String) : Prop :=
  insideAfter false (tokenize template) = false

instance (template : String) : Decidable (EndsOutside template) :=
  inferInstanceAs (Decidable (_ = false))

/-- No opening bracket arises where two templates meet. -/
def Joins (a b : String) : Prop :=
  ¬ (a.toList.getLast? = some '{' ∧ b.toList.head? = some '%')

instance (a b : String) : Decidable (Joins a b) :=
  inferInstanceAs (Decidable (¬ (_ ∧ _)))

/-- An opening bracket in a text that is put together lies in one of the parts, or across the seam. -/
lemma openChars_infix_append {cs ds : List Char} (h : openChars <:+: cs ++ ds) :
    openChars <:+: cs ∨ openChars <:+: ds ∨ cs.getLast? = some '{' ∧ ds.head? = some '%' := by
  induction cs with
  | nil => exact .inr (.inl h)
  | cons c cs ih =>
      rw [List.cons_append, List.infix_cons_iff] at h
      rcases h with h | h
      · -- the bracket begins with the first character
        obtain ⟨rfl, hnext⟩ := List.cons_prefix_cons.mp h
        cases cs with
        | nil =>
            obtain ⟨es, hes⟩ := hnext
            obtain rfl : '%' :: es = ds := hes
            exact .inr (.inr ⟨rfl, rfl⟩)
        | cons d cs =>
            obtain ⟨rfl, -⟩ := List.cons_prefix_cons.mp hnext
            exact .inl ⟨[], cs, rfl⟩
      · rcases ih h with hcs | hds | ⟨hlast, hhead⟩
        · exact .inl (List.infix_cons_iff.mpr (.inr hcs))
        · exact .inr (.inl hds)
        · refine .inr (.inr ⟨?_, hhead⟩)
          rw [List.getLast?_cons, hlast]
          rfl

/-- The scanner takes the same token if more characters follow, unless that token reaches up to the
end inside of a directive, or is a text that goes on. -/
lemma Scans.append (h : Scans s t s') (hinside : s'.rest = [] → s'.inside = false)
    (htext : t.kind = .text → s'.rest ≠ []) (more : List Char) :
    Scans ⟨s.rest ++ more, s.inside, s.offset⟩ t ⟨s'.rest ++ more, s'.inside, s'.offset⟩ := by
  cases h with
  | openBracket => exact .openBracket
  | text hne hc hr =>
      have hopen := hr.resolve_left (htext rfl)
      simp only [List.append_assoc]
      exact .text hne hc (.inr (hopen.trans (List.prefix_append _ more)))
  | closeBracket hgap =>
      simp only [List.append_assoc]
      exact .closeBracket hgap
  | bang hgap =>
      simp only [List.append_assoc]
      exact .bang hgap
  | @word gap c cs rest offset hgap hstart hword hend =>
      simp only [List.append_assoc]
      refine .word hgap hstart hword ?_
      intro d ds hd
      cases rest with
      | nil => cases hinside rfl
      | cons e es =>
          obtain ⟨rfl, -⟩ := List.cons.inj hd
          exact hend e es rfl
  | @invalid gap c cs offset hgap hblank hbang hstart hclose =>
      simp only [List.append_assoc]
      refine .invalid hgap hblank hbang hstart ?_
      intro ds hc hd
      cases cs with
      | nil => cases hinside rfl
      | cons e es =>
          obtain ⟨rfl, -⟩ := List.cons.inj hd
          exact hclose es hc rfl

/-- The token of a text, if there is any text. -/
def textTokens (content : List Char) : List Token :=
  if content = [] then [] else [.text (String.ofList content)]

/-- A text in front of a bracket or the end is scanned as one. -/
lemma tokens_text {content rest : List Char} (hc : ¬ openChars <:+: content)
    (hr : rest = [] ∨ openChars <+: rest) (offset : Nat) :
    ∃ offset', (⟨content ++ rest, false, offset⟩ : Scanner).tokens =
      textTokens content ++ (⟨rest, false, offset'⟩ : Scanner).tokens := by
  by_cases hne : content = []
  · exact ⟨offset, by simp [hne, textTokens]⟩
  · refine ⟨offset + content.length, ?_⟩
    rw [tokens_of_scans (.text hne hc hr), textTokens, if_neg hne, List.singleton_append]

/-- The characters behind a place outside of directives, when others follow: the tokens stay the same
up to a text at the end, which goes on with the text that follows. -/
lemma exists_tokens_append (s : Scanner) (hs : insideAfter s.inside s.tokens = false) :
    ∃ ts ending, s.tokens = ts ++ textTokens ending ∧
      ∀ content rest, ¬ openChars <:+: content → (rest = [] ∨ openChars <+: rest) →
        ¬ (s.rest.getLast? = some '{' ∧ content.head? = some '%') →
        ∃ offset, (⟨s.rest ++ (content ++ rest), s.inside, s.offset⟩ : Scanner).tokens =
          ts ++ (textTokens (ending ++ content) ++ (⟨rest, false, offset⟩ : Scanner).tokens) := by
  induction s using scanner_induction with
  | done s h =>
      obtain ⟨characters, inside, offset⟩ := s
      rw [Scanner.tokens_of_next?_eq_none h] at hs ⊢
      obtain rfl : inside = false := hs
      have hnil : characters = [] := by simpa using next?_eq_none_iff.mp h
      refine ⟨[], [], rfl, fun content rest hc hr _ => ?_⟩
      obtain ⟨offset', htokens⟩ := tokens_text hc hr offset
      exact ⟨offset', by simpa [hnil] using htokens⟩
  | scan s t s' h ih =>
      obtain ⟨gap, hrest, -, -, hleads, -⟩ := h.exists_gap
      have hs' : insideAfter s'.inside s'.tokens = false := by
        rw [tokens_of_scans h] at hs
        rwa [hleads]
      by_cases hlast : t.kind = .text ∧ s'.rest = []
      · -- the last token is a text, and goes on
        obtain ⟨htext, hnil⟩ := hlast
        cases h with
        | openBracket | closeBracket _ | bang _ | invalid _ _ _ _ _ => cases htext
        | @word gap c cs rest offset hgap hstart hword hend =>
            have hmem := kind_ofWord (String.ofList (c :: cs))
            rw [htext] at hmem
            exact absurd hmem (by decide)
        | @text ending cs offset hne hending _ =>
            obtain rfl : cs = [] := hnil
            refine ⟨[], ending, ?_, fun content rest hc hr hjoin => ?_⟩
            · have hend : (⟨[], false, offset + ending.length⟩ : Scanner).next? = none :=
                next?_eq_none_iff.mpr (.inl rfl)
              rw [tokens_of_scans (.text hne hending (.inl rfl)), textTokens, if_neg hne,
                Scanner.tokens_of_next?_eq_none hend]
              rfl
            · simp only [List.append_nil] at hjoin
              have hcontent : ¬ openChars <:+: ending ++ content := by
                intro hinfix
                rcases openChars_infix_append hinfix with hi | hi | hi
                · exact hending hi
                · exact hc hi
                · exact hjoin hi
              obtain ⟨offset', htokens⟩ := tokens_text hcontent hr offset
              exact ⟨offset', by simpa using htokens⟩
      · have hinside : s'.rest = [] → s'.inside = false := by
          intro hnil
          rwa [Scanner.tokens_of_next?_eq_none (next?_eq_none_iff.mpr (.inl hnil))] at hs'
        obtain ⟨ts, ending, htokens, hmore⟩ := ih hs'
        refine ⟨t :: ts, ending, ?_, fun content rest hc hr hjoin => ?_⟩
        · rw [tokens_of_scans h, htokens, List.cons_append]
        · have hjoin' : ¬ (s'.rest.getLast? = some '{' ∧ content.head? = some '%') := by
            rintro ⟨hlast', hhead⟩
            refine hjoin ⟨?_, hhead⟩
            rw [hrest, List.getLast?_append, hlast']
            rfl
          obtain ⟨offset, happend⟩ := hmore content rest hc hr hjoin'
          have hscans := h.append hinside (fun htext hnil => hlast ⟨htext, hnil⟩) (content ++ rest)
          exact ⟨offset, by rw [tokens_of_scans hscans, happend, List.cons_append]⟩

/-! ## Ending outside of directives -/

/-- A text leads neither into a directive nor out of it. -/
lemma insideAfter_textTokens (inside : Bool) (content : List Char) :
    insideAfter inside (textTokens content) = inside := by
  unfold textTokens
  split <;> rfl

/-- Where tokens lead depends on their kinds only. -/
lemma insideAfter_of_bare (h : us.map Token.bare = ts.map Token.bare) (inside : Bool) :
    insideAfter inside us = insideAfter inside ts := by
  have hkinds (ts : List Token) : insideAfter inside ts =
      (ts.map Token.bare).foldl Token.leads inside := by
    rw [insideAfter, List.foldl_map]
    congr 1
    funext i t
    rw [Token.leads, Token.leads, bare_kind]
  rw [hkinds us, h, ← hkinds ts]

/-- The tokens of two templates that are put together: those of the first and those of the second, but
that a text at the end of the first and one at the start of the second are one token. -/
lemma exists_tokenize_append (ha : EndsOutside a) (hjoin : Joins a b) :
    ∃ ts us us' ending content, us'.map Token.unplaced = us.map Token.unplaced ∧
      tokenize a = ts ++ textTokens ending ∧ tokenize b = textTokens content ++ us ∧
      tokenize (a ++ b) = ts ++ (textTokens (ending ++ content) ++ us') := by
  have hb := splitAtOpen_append b.toList
  have hc := not_infix_splitAtOpen b.toList
  have hr := splitAtOpen_snd b.toList
  generalize (splitAtOpen b.toList).1 = content at hb hc
  generalize (splitAtOpen b.toList).2 = rest at hb hr
  have hjoin' : ¬ (a.toList.getLast? = some '{' ∧ content.head? = some '%') := by
    rintro ⟨hlast, hhead⟩
    refine hjoin ⟨hlast, ?_⟩
    rw [← hb, List.head?_append, hhead]
    rfl
  obtain ⟨ts, ending, htokens, hmore⟩ := exists_tokens_append (Scanner.start a) ha
  obtain ⟨offset, happend⟩ := hmore content rest hc hr hjoin'
  obtain ⟨offset', htext⟩ := tokens_text hc hr 0
  have hsame := unplaced_tokens ⟨rest, false, offset'⟩ offset
  refine ⟨ts, _, _, ending, content, hsame, htokens, ?_, ?_⟩
  · rw [tokenize, Scanner.start, ← hb, htext]
  · rw [tokenize, Scanner.start, String.toList_append, ← hb]
    exact happend

/-- Behind a template that ends outside of directives, another one ends outside as it does by itself. -/
lemma endsOutside_append_iff (ha : EndsOutside a) (hjoin : Joins a b) :
    EndsOutside (a ++ b) ↔ EndsOutside b := by
  obtain ⟨ts, us, us', ending, content, hsame, hta, htb, happend⟩ :=
    exists_tokenize_append ha hjoin
  have hbare := bare_of_unplaced hsame
  unfold EndsOutside at ha ⊢
  rw [hta, insideAfter_append, insideAfter_textTokens] at ha
  rw [happend, htb, insideAfter_append, insideAfter_append, insideAfter_append,
    insideAfter_textTokens, insideAfter_textTokens, ha, insideAfter_of_bare hbare]

/-- Two templates that end outside of directives do so also together. -/
lemma EndsOutside.append (ha : EndsOutside a) (hb : EndsOutside b) (hjoin : Joins a b) :
    EndsOutside (a ++ b) :=
  (endsOutside_append_iff ha hjoin).mpr hb

/-! ## Statements put together -/

/-- The statement of a text, if there is any text. -/
def textStatements (content : List Char) : List Statement :=
  if content = [] then [] else [.text (String.ofList content)]

/-- A text is read as one statement. -/
lemma advance_textTokens (block : List Statement) (os : List OpenConditional)
    (content : List Char) :
    advance ⟨block, os, .statement⟩ (textTokens content) =
      .ok ⟨block ++ textStatements content, os, .statement⟩ := by
  unfold textTokens textStatements
  split
  · rw [List.append_nil]
    rfl
  · rfl

/-- A text at the end is the last statement. -/
lemma advance_of_append_textTokens {content : List Char}
    (h : (readStatements (ts ++ textTokens content)).1 = .ok S) :
    ∃ S₀, S = S₀ ++ textStatements content ∧ advance {} ts = .ok ⟨S₀, [], .statement⟩ := by
  rw [readStatements_eq_ok] at h
  by_cases hnil : content = []
  · exact ⟨S, by simp [hnil, textStatements], by simpa [hnil, textTokens] using h⟩
  · rw [textTokens, if_neg hnil, advance_append] at h
    cases hts : advance {} ts with
    | error e =>
        rw [hts] at h
        cases h
    | ok p =>
        rw [hts] at h
        obtain ⟨q, hstep, hq⟩ := advance_cons_eq_ok.mp h
        obtain rfl := Except.ok.inj hq
        -- a text is taken only where a statement may start
        have haccepts := accepts_of_step hstep
        generalize hq : (⟨S, [], .statement⟩ : Progress) = q at haccepts
        cases haccepts with
        | text _ =>
            obtain ⟨rfl, rfl, -⟩ := Progress.mk.inj hq
            exact ⟨_, by rw [textStatements, if_neg hnil]; rfl, rfl⟩
        | bracket ht | name ht | ifWord ht | elseWord ht | endifWord ht | endifWordElse ht | bang ht
        | conditionName ht => cases ht

/-- A text at the start is the first statement. -/
lemma readStatements_of_textTokens_append {content : List Char}
    (h : (readStatements (textTokens content ++ us)).1 = .ok T) :
    ∃ T₀, T = textStatements content ++ T₀ ∧ (readStatements us).1 = .ok T₀ := by
  by_cases hnil : content = []
  · exact ⟨T, by simp [hnil, textStatements], by simpa [hnil, textTokens] using h⟩
  · rw [textTokens, if_neg hnil, List.singleton_append] at h
    have hgenuine := genuine_of_readStatements h
    have hessence := essence_of_readStatements h
    have hheaders := headersBare_of_advance (readStatements_eq_ok.mp h)
    rw [essence_cons_of_not_isBracket rfl] at hessence
    have hbehind : HeadersBare us := hheaders.of_suffix (List.suffix_cons _ _)
    match T, hgenuine, hessence with
    | [], _, hessence => simp at hessence
    | .text c :: T₀, hgenuine, hessence =>
        rw [linearizeAll_cons, linearize_text, List.singleton_append] at hessence
        obtain ⟨htext, hrest⟩ := List.cons.inj hessence
        have hc : String.ofList content = c := congrArg Token.value htext
        refine ⟨T₀, by rw [textStatements, if_neg hnil, hc]; rfl, ?_⟩
        exact readStatements_of_essence (allBuiltFrom_cons.mp hgenuine).2 hrest hbehind
    | .variable n :: T₀, _, hessence =>
        rw [linearizeAll_cons, linearize_variable] at hessence
        cases congrArg Token.kind (List.cons.inj hessence).1
    | .conditional n negated T₁ none :: T₀, _, hessence =>
        rw [linearizeAll_cons, linearize_choice] at hessence
        cases congrArg Token.kind (List.cons.inj hessence).1
    | .conditional n negated T₁ (some F) :: T₀, _, hessence =>
        rw [linearizeAll_cons, linearize_choiceElse] at hessence
        cases congrArg Token.kind (List.cons.inj hessence).1
    | .foreign typeName :: T₀, hgenuine, _ =>
        exact absurd (allBuiltFrom_cons.mp hgenuine).1 not_builtFrom_foreign

/-- The statements of two templates that are put together: those of the first and those of the second,
but that a text at the seam is one statement. -/
lemma parse_append (ha : parse a = .ok S) (hb : parse b = .ok T) (hends : EndsOutside a)
    (hjoin : Joins a b) :
    ∃ S₀ T₀ ending content, S = S₀ ++ textStatements ending ∧ T = textStatements content ++ T₀ ∧
      parse (a ++ b) = .ok (S₀ ++ (textStatements (ending ++ content) ++ T₀)) := by
  obtain ⟨ts, us, us', ending, content, hsame, hta, htb, happend⟩ :=
    exists_tokenize_append hends hjoin
  have hbare := bare_of_unplaced hsame
  rw [parse, hta] at ha
  rw [parse, htb] at hb
  obtain ⟨S₀, hS, hts⟩ := advance_of_append_textTokens ha
  obtain ⟨T₀, hT, hus⟩ := readStatements_of_textTokens_append hb
  refine ⟨S₀, T₀, ending, content, hS, hT, ?_⟩
  rw [parse, happend, readStatements_eq_ok]
  refine advance_append_of_eq hts ?_
  refine advance_append_of_eq (advance_textTokens S₀ [] (ending ++ content)) ?_
  rw [advance_of_readStatements hus hbare, List.append_assoc]

/-! ## Values put together -/

/-- Text comes to itself. -/
lemma evaluateAll_textStatements (m : Bindings) (content : List Char) :
    evaluateAll m (textStatements content) = .ok (String.ofList content) := by
  unfold textStatements
  split
  · rename_i hnil
    rw [hnil, evaluateAll]
  · rw [evaluateAll, evaluate, evaluateAll]
    simp [bind, Except.bind, pure, Except.pure]

/-- It makes no difference to the value whether a text is cut in two. -/
lemma evaluateAll_cut (m : Bindings) (S₀ T₀ : List Statement) (ending content : List Char) :
    evaluateAll m (S₀ ++ (textStatements (ending ++ content) ++ T₀)) = do
      let first ← evaluateAll m (S₀ ++ textStatements ending)
      let rest ← evaluateAll m (textStatements content ++ T₀)
      return first ++ rest := by
  simp only [evaluateAll_append, evaluateAll_textStatements]
  cases evaluateAll m S₀ with
  | error e => rfl
  | ok x =>
      cases evaluateAll m T₀ with
      | error e => rfl
      | ok y => simp [bind, Except.bind, pure, Except.pure, String.append_assoc]

/-- A template that parses renders to the value of its statements. -/
lemma render_of_parse (h : parse a = .ok S) (m : Bindings) :
    render a m = (evaluateAll m S).mapError .evaluationError := by
  rw [render, h]
  cases hvalue : evaluateAll m S with
  | error e => simp [hvalue, Except.mapError]
  | ok text => simp [hvalue, Except.mapError]

/-- What two templates render to is put together, and so are they. -/
lemma render_append (ha : parse a = .ok S) (hb : parse b = .ok T) (hends : EndsOutside a)
    (hjoin : Joins a b) (m : Bindings) :
    render (a ++ b) m = do
      let first ← render a m
      let rest ← render b m
      return first ++ rest := by
  obtain ⟨S₀, T₀, ending, content, hS, hT, happend⟩ := parse_append ha hb hends hjoin
  rw [render_of_parse happend, render_of_parse ha, render_of_parse hb, evaluateAll_cut, ← hS, ← hT]
  cases evaluateAll m S with
  | error e => rfl
  | ok x =>
      cases evaluateAll m T with
      | error e => rfl
      | ok y => rfl

/-! ## Text -/

/-- The tokens of a text without a bracket. -/
lemma tokenize_of_text (hx : ¬ openChars <:+: x.toList) : tokenize x = textTokens x.toList := by
  obtain ⟨offset, htokens⟩ := tokens_text hx (.inl rfl) 0
  have hend : (⟨[], false, offset⟩ : Scanner).tokens = [] :=
    Scanner.tokens_of_next?_eq_none (next?_eq_none_iff.mpr (.inl rfl))
  rw [List.append_nil, hend, List.append_nil] at htokens
  rw [tokenize, Scanner.start, htokens]

/-- A template without an opening bracket is text. -/
lemma parse_of_text (hx : ¬ openChars <:+: x.toList) : parse x = .ok (textStatements x.toList) := by
  rw [parse, tokenize_of_text hx, readStatements_eq_ok, advance_textTokens]
  rfl

/-- Such a template ends outside of directives. -/
lemma endsOutside_of_text (hx : ¬ openChars <:+: x.toList) : EndsOutside x := by
  rw [EndsOutside, tokenize_of_text hx, insideAfter_textTokens]

/-- A text without a bracket renders to itself. -/
lemma render_of_text (hx : ¬ openChars <:+: x.toList) (m : Bindings) : render x m = .ok x := by
  rw [render_of_parse (parse_of_text hx), evaluateAll_textStatements, String.ofList_toList]
  rfl

/-- **Rendering puts together.** Two templates of which the first ends outside of directives parse also
together, if no bracket arises where they meet, and render to what the one and then the other renders
to; the first error is that of both. Text without a bracket renders to itself, alone and around a
template. -/
theorem render_append_and_text :
    (∀ a b S T, parse a = .ok S → parse b = .ok T → EndsOutside a → Joins a b →
      (∃ U, parse (a ++ b) = .ok U) ∧
        ∀ m, render (a ++ b) m = do
          let first ← render a m
          let rest ← render b m
          return first ++ rest) ∧
    (∀ x m, ¬ openChars <:+: x.toList → render x m = .ok x) ∧
    ∀ x a y S, ¬ openChars <:+: x.toList → ¬ openChars <:+: y.toList → parse a = .ok S →
      EndsOutside a → Joins x a → Joins (x ++ a) y →
        ∀ m, render (x ++ a ++ y) m = (render a m).map fun text => x ++ text ++ y := by
  refine ⟨fun a b S T ha hb hends hjoin => ?_, fun x m hx => render_of_text hx m, ?_⟩
  · obtain ⟨S₀, T₀, ending, content, -, -, happend⟩ := parse_append ha hb hends hjoin
    exact ⟨⟨_, happend⟩, render_append ha hb hends hjoin⟩
  · intro x a y S hx hy ha hends hjoin hjoin' m
    obtain ⟨S₀, T₀, ending, content, -, -, hxa⟩ :=
      parse_append (parse_of_text hx) ha (endsOutside_of_text hx) hjoin
    have houtside := (endsOutside_of_text hx).append hends hjoin
    rw [render_append hxa (parse_of_text hy) houtside hjoin' m,
      render_append (parse_of_text hx) ha (endsOutside_of_text hx) hjoin m, render_of_text hx m,
      render_of_text hy m]
    cases render a m with
    | error e => rfl
    | ok text => rfl

/-- A template that ends with a text that ends like a bracket begins. -/
def seamFirst : String := "\x7b% n %\x7dp\x7b"

/-- A template that begins with a text that begins like a bracket does. -/
def seamSecond : String := "\x7bq\x7b% n %\x7d"

/-- Two templates of which one ends with half a bracket, and text that has a closing one. -/
theorem render_append_and_text_seam :
    (∃ U, parse (seamFirst ++ seamSecond) = .ok U) ∧
      render (seamFirst ++ seamSecond) ⟨[("n", "1")]⟩ = .ok "1p\x7b\x7bq1" ∧
      render "%\x7d" {} = .ok "%\x7d" ∧
      render ("<" ++ seamFirst ++ ">") ⟨[("n", "1")]⟩ = .ok "<1p\x7b>" := by
  have hfirst : tokenize seamFirst =
      [.openBracket, .ofWord "n", .closeBracket, .text "p\x7b"] := by decide +kernel
  have hsecond : tokenize seamSecond =
      [.text "\x7bq", .openBracket, .ofWord "n", .closeBracket] := by decide +kernel
  have hparseFirst : parse seamFirst = .ok [.variable "n", .text "p\x7b"] := by
    rw [parse, hfirst]
    rfl
  have hparseSecond : parse seamSecond = .ok [.text "\x7bq", .variable "n"] := by
    rw [parse, hsecond]
    rfl
  have hends : EndsOutside seamFirst := by
    rw [EndsOutside, hfirst]
    rfl
  have hrenderFirst : render seamFirst ⟨[("n", "1")]⟩ = .ok "1p\x7b" := by
    rw [render_of_parse hparseFirst]
    rfl
  have hrenderSecond : render seamSecond ⟨[("n", "1")]⟩ = .ok "\x7bq1" := by
    rw [render_of_parse hparseSecond]
    rfl
  have hjoined := render_append_and_text.1 seamFirst seamSecond _ _ hparseFirst hparseSecond hends
    (by decide)
  have htext := render_append_and_text.2.1 "%\x7d" {} (by decide)
  have haround := render_append_and_text.2.2 "<" seamFirst ">" _ (by decide) (by decide) hparseFirst
    hends (by decide) (by decide) ⟨[("n", "1")]⟩
  refine ⟨hjoined.1, ?_, htext, ?_⟩
  · rw [hjoined.2, hrenderFirst, hrenderSecond]
    rfl
  · rw [haround, hrenderFirst]
    rfl

end Scaffold.Template
