import Mathlib.Tactic.Lemma
import Scaffold.Proofs.Template.Joining
import Scaffold.Proofs.Text.Replacing

/-!
# Values put into a template before it is read

A value may be put into a template in place of a part of it before the template is read, or a directive
that names the value may be put there. Both come to the same where the place lies outside of directives
and the value holds nothing that a bracket is made of.

* `Progress.worth`: what the reader knows under some bindings. `outcome_advance` says that it goes on in the
  same way from what is worth the same.
* `Interchangeable`: two texts read on as the same wherever a statement may start.
* `interchangeable_value`: a value and the directive that names it, behind a text that ends outside of
  directives.
* `render_replaceAll`: all the places at which a pattern is replaced.
* `directiveTokens_replaceAll`: the directives of a template, which stay the same then.
-/

namespace Scaffold.Template

variable {b : Bindings} {p q : Progress} {t u : Token} {ts us : List Token} {inside : Bool}
  {cs ds front : List Char} {m value x y : String}

/-! ## Errors without their places -/

/-- A syntax error without the position of an invalid character. -/
def SyntaxError.unplaced : SyntaxError → SyntaxError
  | .invalidCharacter value _ => .invalidCharacter value 0
  | .unexpected token => .unexpected token.unplaced
  | .missingCondition found => .missingCondition (found.map Token.unplaced)
  | .unclosed => .unclosed

/-- A rendering error without the position of an invalid character. -/
def RenderError.unplaced : RenderError → RenderError
  | .syntaxError e => .syntaxError e.unplaced
  | .evaluationError e => .evaluationError e

/-! ## What the reader knows -/

/-- What is known of a conditional that is still open: its head, and what the statements before it and its
first branch are worth. -/
structure OpenWorth where
  name : String
  negated : Bool
  before : Except EvaluationError String
  thenBranch : Option (Except EvaluationError String)

/-- What is known when some tokens have been read: what the statements of the innermost block are worth,
the open conditionals, and what may come next. -/
structure Worth where
  block : Except EvaluationError String
  openConditionals : List OpenWorth
  expecting : Expectation

/-- What an open conditional comes to under some bindings. -/
def OpenConditional.worth (b : Bindings) (o : OpenConditional) : OpenWorth :=
  ⟨o.name, o.negated, evaluateAll b o.before, o.thenBranch.map (evaluateAll b)⟩

/-- What some open conditionals are worth. -/
def openWorth (b : Bindings) (os : List OpenConditional) : List OpenWorth :=
  os.map (·.worth b)

@[simp] lemma openWorth_cons (o : OpenConditional) (os : List OpenConditional) :
    openWorth b (o :: os) =
      ⟨o.name, o.negated, evaluateAll b o.before, o.thenBranch.map (evaluateAll b)⟩ ::
        openWorth b os :=
  rfl

/-- What a state of the parser comes to under some bindings. -/
def Progress.worth (b : Bindings) (p : Progress) : Worth :=
  ⟨evaluateAll b p.block, openWorth b p.openConditionals, p.expecting⟩

/-- What has become of the reading, where it does not matter at which position it failed. -/
def outcome (b : Bindings) : Except SyntaxError Progress → Except SyntaxError Worth
  | .ok p => .ok (p.worth b)
  | .error e => .error e.unplaced

/-- Two tokens that are the same but for their places are of one kind and hold the same value. -/
lemma kind_value_of_unplaced (h : t.unplaced = u.unplaced) : t.kind = u.kind ∧ t.value = u.value := by
  have hvalue (t : Token) : t.unplaced.value = t.value := by
    unfold Token.unplaced
    split <;> rfl
  exact ⟨by rw [← kind_unplaced t, h, kind_unplaced], by rw [← hvalue t, h, hvalue]⟩

/-- A block that goes on with the same is worth the same. -/
lemma evaluateAll_append_congr {S S' : List Statement} (hS : evaluateAll b S = evaluateAll b S')
    {s s' : Statement} (hs : evaluate b s = evaluate b s') :
    evaluateAll b (S ++ [s]) = evaluateAll b (S' ++ [s']) := by
  simp only [evaluateAll_append, evaluateAll, hS, hs]

/-- Conditionals whose branches are worth the same are worth the same. -/
lemma evaluate_conditional_congr {T T' : List Statement} {F F' : Option (List Statement)}
    (hT : evaluateAll b T = evaluateAll b T') (hF : evaluateElse b F = evaluateElse b F')
    (name : String) (negated : Bool) :
    evaluate b (.conditional name negated T F) = evaluate b (.conditional name negated T' F') := by
  simp only [evaluate, hT, hF]

/-- The ways in which open conditionals are worth the same: there are none, or the innermost ones have the
same head and stand at the same branch. -/
inductive OpenAlike (b : Bindings) : List OpenConditional → List OpenConditional → Prop
  | none : OpenAlike b [] []
  | thenBranch (name : String) (negated : Bool) {before before' : List Statement}
      {os os' : List OpenConditional} (hbefore : evaluateAll b before = evaluateAll b before')
      (hos : openWorth b os = openWorth b os') :
      OpenAlike b (⟨name, negated, before, .none⟩ :: os) (⟨name, negated, before', .none⟩ :: os')
  | elseBranch (name : String) (negated : Bool) {before before' T T' : List Statement}
      {os os' : List OpenConditional} (hbefore : evaluateAll b before = evaluateAll b before')
      (hT : evaluateAll b T = evaluateAll b T') (hos : openWorth b os = openWorth b os') :
      OpenAlike b (⟨name, negated, before, some T⟩ :: os) (⟨name, negated, before', some T'⟩ :: os')

/-- Open conditionals of the same worth are alike. -/
lemma openAlike_of_worth {os os' : List OpenConditional} (h : openWorth b os = openWorth b os') :
    OpenAlike b os os' := by
  cases os with
  | nil =>
      obtain rfl := List.map_eq_nil_iff.mp h.symm
      exact .none
  | cons o rest =>
      obtain ⟨o', rest', rfl, ho, hrest⟩ := List.map_eq_cons_iff.mp h.symm
      obtain ⟨name, negated, before, thenBranch⟩ := o
      obtain ⟨name', negated', before', thenBranch'⟩ := o'
      obtain ⟨hname, hnegated, hbefore, hthen⟩ := OpenWorth.mk.inj ho
      obtain rfl : name' = name := hname
      obtain rfl : negated' = negated := hnegated
      cases thenBranch with
      | none =>
          obtain rfl := Option.map_eq_none_iff.mp hthen
          exact .thenBranch name' negated' hbefore.symm hrest.symm
      | some T =>
          obtain ⟨T', rfl, hT⟩ := Option.map_eq_some_iff.mp hthen
          exact .elseBranch name' negated' hbefore.symm hT.symm hrest.symm

/-- The reader takes the same token in the same way where what it knows is worth the same. -/
lemma outcome_step (hworth : p.worth b = q.worth b) (ht : t.unplaced = u.unplaced) :
    outcome b (p.step t) = outcome b (q.step u) := by
  obtain ⟨block, os, expecting⟩ := p
  obtain ⟨block', os', expecting'⟩ := q
  obtain ⟨hblock, hopen, rfl⟩ := Worth.mk.inj hworth
  dsimp only at hblock hopen
  obtain ⟨hkind, hvalue⟩ := kind_value_of_unplaced ht
  obtain ⟨kind, value, position⟩ := t
  obtain ⟨kind', value', position'⟩ := u
  obtain rfl : kind = kind' := hkind
  obtain rfl : value = value' := hvalue
  cases expecting with
  | statement =>
      simp only [Progress.step, Progress.stepStatement]
      cases kind with
      | openBracket | closeBracket | ifWord => simp only [outcome, Progress.worth, hblock, hopen]
      | text | «variable» =>
          simp only [outcome, Progress.worth, Progress.push, hopen,
            evaluateAll_append_congr hblock rfl]
      | elseWord =>
          cases openAlike_of_worth hopen with
          | none | elseBranch =>
              simp only [Progress.turn?, Option.elim, outcome, SyntaxError.unplaced, ht]
          | thenBranch _ _ hbefore hos =>
              simp only [Progress.turn?, Option.elim, outcome, Progress.worth, openWorth_cons, hbefore, hos,
                hblock, Option.map_some]
      | endifWord =>
          cases openAlike_of_worth hopen with
          | none => simp only [Progress.leave?, Option.elim, outcome, SyntaxError.unplaced, ht]
          | thenBranch name negated hbefore hos =>
              have hvalue := evaluateAll_append_congr hbefore
                (evaluate_conditional_congr hblock (F := none) rfl name negated)
              simp only [Progress.leave?, Option.elim, outcome, Progress.worth, hos, hvalue]
          | elseBranch name negated hbefore hT hos =>
              have helse : evaluateElse b (some block) = evaluateElse b (some block') := by
                simp only [evaluateElse, hblock]
              have hvalue := evaluateAll_append_congr hbefore
                (evaluate_conditional_congr hT helse name negated)
              simp only [Progress.leave?, Option.elim, outcome, Progress.worth, hos, hvalue]
      | invalid => rfl
      | bang => simp only [outcome, SyntaxError.unplaced, ht]
  | condition negated =>
      simp only [Progress.step, Progress.stepCondition]
      cases kind with
      | «variable» =>
          cases negated <;>
            simp only [outcome, Progress.worth, Progress.enter, hblock, hopen, openWorth_cons]
      | bang =>
          cases negated <;>
            simp [outcome, Progress.worth, hblock, hopen, SyntaxError.unplaced, ht]
      | invalid => cases negated <;> rfl
      | openBracket | closeBracket | text | ifWord | elseWord | endifWord =>
          cases negated <;> simp [outcome, SyntaxError.unplaced, ht]

/-- Two outcomes that are the same are two failures of the same kind, or what is known is worth the same. -/
lemma outcome_cases {r r' : Except SyntaxError Progress} (h : outcome b r = outcome b r') :
    (∃ e e', r = .error e ∧ r' = .error e' ∧ e.unplaced = e'.unplaced) ∨
      ∃ p q, r = .ok p ∧ r' = .ok q ∧ p.worth b = q.worth b := by
  cases r with
  | error e =>
      cases r' with
      | error e' => exact .inl ⟨e, e', rfl, rfl, Except.error.inj h⟩
      | ok q => cases h
  | ok p =>
      cases r' with
      | error e' => cases h
      | ok q => exact .inr ⟨p, q, rfl, rfl, Except.ok.inj h⟩

/-- The reader goes on over the same tokens in the same way where what it knows is worth the same. -/
lemma outcome_advance (hworth : p.worth b = q.worth b)
    (hts : ts.map Token.unplaced = us.map Token.unplaced) :
    outcome b (advance p ts) = outcome b (advance q us) := by
  induction ts generalizing p q us with
  | nil =>
      obtain rfl := List.map_eq_nil_iff.mp hts.symm
      exact congrArg Except.ok hworth
  | cons t ts ih =>
      obtain ⟨u, us, rfl, hu, hus⟩ := List.map_eq_cons_iff.mp hts.symm
      rw [advance, advance]
      rcases outcome_cases (outcome_step hworth hu.symm) with
        ⟨e, e', he, he', hsame⟩ | ⟨p', q', hp', hq', hworth'⟩
      · rw [he, he']
        exact congrArg Except.error hsame
      · rw [hp', hq']
        exact ih hworth' hus.symm

/-- Outside of directives a statement may start. -/
lemma expecting_of_advance (hwell : WellFormed inside (ts ++ us))
    (houtside : insideAfter inside ts = false) (hp : inside = false → p.expecting = .statement)
    (h : advance p ts = .ok q) : q.expecting = .statement := by
  induction ts generalizing inside p with
  | nil =>
      obtain rfl := Except.ok.inj h
      exact hp houtside
  | cons t ts ih =>
      obtain ⟨p', hstep, hrest⟩ := advance_cons_eq_ok.mp h
      obtain ⟨-, hstands, -, hwell'⟩ := wellFormed_cons.mp hwell
      refine ih hwell' houtside (fun hleads => ?_) hrest
      -- the words that a condition begins with stand inside of a directive, and lead nowhere else
      have hwithin : t.kind ≠ .text → t.kind ≠ .openBracket → t.leads inside = inside → False := by
        intro htext hopen hsame
        exact (hstands.mpr (hsame.symm.trans hleads)).elim htext hopen
      cases accepts_of_step hstep with
      | bracket | text | name | elseWord | endifWord | endifWordElse | conditionName => rfl
      | ifWord hk | bang hk =>
          exact (hwithin (by simp [hk]) (by simp [hk]) (by simp [Token.leads, hk])).elim

/-! ## A value and the directive that names it -/

/-- Two texts are read on as the same wherever a statement may start. -/
def Interchangeable (b : Bindings) (cs ds : List Char) : Prop :=
  ∀ p q : Progress, p.worth b = q.worth b → p.expecting = .statement →
    outcome b (advance p (⟨cs, false, 0⟩ : Scanner).tokens) =
      outcome b (advance q (⟨ds, false, 0⟩ : Scanner).tokens)

/-- Characters may stand for themselves. -/
lemma Interchangeable.refl (b : Bindings) (cs : List Char) : Interchangeable b cs cs :=
  fun _ _ hworth _ => outcome_advance hworth rfl

/-- A text that is not empty and holds nothing that a bracket begins with or goes on with. -/
structure IsInert (x : String) : Prop where
  ne_empty : x ≠ ""
  open_notMem : '{' ∉ x.toList
  percent_notMem : '%' ∉ x.toList

instance (x : String) : Decidable (IsInert x) :=
  decidable_of_iff (x ≠ "" ∧ '{' ∉ x.toList ∧ '%' ∉ x.toList)
    ⟨fun ⟨h₁, h₂, h₃⟩ => ⟨h₁, h₂, h₃⟩, fun ⟨h₁, h₂, h₃⟩ => ⟨h₁, h₂, h₃⟩⟩

/-- No bracket arises where an inert text stands in front of another one. -/
lemma IsInert.bracketless_append (hx : IsInert x) (hcs : ¬ openChars <:+: cs) :
    ¬ openChars <:+: x.toList ++ cs := by
  intro hinfix
  rcases openChars_infix_append hinfix with h | h | ⟨hlast, -⟩
  · exact hx.open_notMem (h.subset List.mem_cons_self)
  · exact hcs h
  · exact hx.open_notMem (List.mem_of_getLast? hlast)

/-- In front of other text, an inert one does not make its first character a percent sign. -/
lemma IsInert.head?_append_ne (hx : IsInert x) (cs : List Char) :
    (x.toList ++ cs).head? ≠ some '%' := by
  intro hhead
  have hne : x.toList ≠ [] := by simpa using hx.ne_empty
  obtain ⟨c, rest, hvalue⟩ := List.exists_cons_of_ne_nil hne
  rw [hvalue] at hhead
  obtain rfl : c = '%' := Option.some.inj hhead
  exact hx.percent_notMem (hvalue ▸ List.mem_cons_self)

/-- A block that goes on with a text is worth that text more. -/
lemma evaluateAll_append_text (S : List Statement) (content : List Char) :
    evaluateAll b (S ++ textStatements content) =
      (evaluateAll b S).map (· ++ String.ofList content) := by
  rw [evaluateAll_append, evaluateAll_textStatements]
  cases evaluateAll b S with
  | error e => rfl
  | ok text => rfl

/-- A block that goes on with a name is worth the value more that is bound to the name. -/
lemma evaluateAll_append_name (hbound : b.get? m = some value) (S : List Statement) :
    evaluateAll b (S ++ [.variable m]) = (evaluateAll b S).map (· ++ value) := by
  rw [evaluateAll_append, evaluateAll, evaluateAll, evaluate, Bindings.find, hbound]
  cases evaluateAll b S with
  | error e => rfl
  | ok text => simp [bind, Except.bind, pure, Except.pure, Except.map]

/-- It makes no difference to what is known whether a text is cut in two. -/
lemma worth_cut (S : List Statement) (os : List OpenConditional) (cs ds : List Char) :
    (⟨S ++ textStatements (cs ++ ds), os, .statement⟩ : Progress).worth b =
      (⟨S ++ textStatements cs ++ textStatements ds, os, .statement⟩ : Progress).worth b := by
  simp only [Progress.worth, evaluateAll_append_text]
  cases evaluateAll b S with
  | error e => rfl
  | ok text => simp [Except.map, String.append_assoc]

/-- A value is worth the same in a text as by its name. -/
lemma worth_value {S S' : List Statement} {os os' : List OpenConditional}
    (hbound : b.get? m = some value) (hS : evaluateAll b S = evaluateAll b S')
    (hos : openWorth b os = openWorth b os') (cs : List Char) :
    (⟨S ++ textStatements (cs ++ value.toList), os, .statement⟩ : Progress).worth b =
      (⟨S' ++ textStatements cs ++ [.variable m], os', .statement⟩ : Progress).worth b := by
  simp only [Progress.worth, evaluateAll_append_text, evaluateAll_append_name hbound, hS, hos]
  cases evaluateAll b S' with
  | error e => rfl
  | ok text => simp [Except.map, String.append_assoc]

/-- A text is read on from any place in it as it is read at once. -/
lemma outcome_text (hcs : ¬ openChars <:+: cs) (hds : ds = [] ∨ openChars <+: ds) (S : List Statement)
    (os : List OpenConditional) (before : List Char) (offset : Nat) :
    outcome b (advance ⟨S, os, .statement⟩
        (textTokens (before ++ cs) ++ (⟨ds, false, offset⟩ : Scanner).tokens)) =
      outcome b (advance ⟨S ++ textStatements before, os, .statement⟩
        (⟨cs ++ ds, false, 0⟩ : Scanner).tokens) := by
  obtain ⟨offset', htext⟩ := tokens_text hcs hds 0
  rw [htext, advance_append, advance_append, advance_textTokens, advance_textTokens]
  exact outcome_advance (worth_cut S os before cs) (unplaced_tokens ⟨ds, false, offset'⟩ offset)

/-- A directive that stands behind a text leaves the name in it. -/
lemma outcome_directive (hname : IsVariableName m) (S : List Statement) (os : List OpenConditional)
    (before cs : List Char) (offset : Nat) :
    outcome b (advance ⟨S, os, .statement⟩
        (textTokens before ++ (⟨directive m ++ cs, false, offset⟩ : Scanner).tokens)) =
      outcome b (advance ⟨S ++ textStatements before ++ [.variable m], os, .statement⟩
        (⟨cs, false, 0⟩ : Scanner).tokens) := by
  have hvariable : Accepts ⟨S ++ textStatements before, os, .statement⟩ (.ofWord m)
      ⟨S ++ textStatements before ++ [.variable m], os, .statement⟩ := by
    rw [ofWord_of_not_mem hname.2]
    exact .name rfl
  obtain ⟨offset', us, htokens, hread⟩ := leads_directive hname.1 hvariable offset
  dsimp only at htokens hread
  rw [advance_append, advance_textTokens, htokens]
  simp only [Except.bind]
  rw [advance_append, hread]
  exact outcome_advance rfl (unplaced_tokens ⟨cs, false, 0⟩ offset')

/-- **A value and the directive that names it come to the same.** Behind a text that ends outside of
directives, an inert value may stand instead of the directive that names it. -/
lemma interchangeable_value (hname : IsVariableName m) (hbound : b.get? m = some value)
    (hvalue : IsInert value) (hfront : EndsOutside (String.ofList front))
    (h : Interchangeable b cs ds) :
    Interchangeable b (front ++ (value.toList ++ cs)) (front ++ (directive m ++ ds)) := by
  intro p q hworth hp
  have hsplit := splitAtOpen_append cs
  have hc := not_infix_splitAtOpen cs
  have hr := splitAtOpen_snd cs
  generalize (splitAtOpen cs).1 = content at hsplit hc
  generalize (splitAtOpen cs).2 = rest at hsplit hr
  subst hsplit
  have hout : insideAfter false (⟨front, false, 0⟩ : Scanner).tokens = false := by
    rwa [EndsOutside, tokenize, Scanner.start, String.toList_ofList] at hfront
  have hwell := wellFormed_tokens ⟨front, false, 0⟩
  obtain ⟨ts, ending, htokens, hmore⟩ := exists_tokens_append ⟨front, false, 0⟩ hout
  rw [htokens] at hout hwell
  rw [insideAfter_append, insideAfter_textTokens] at hout
  obtain ⟨offset, hplaced⟩ := hmore (value.toList ++ content) rest (hvalue.bracketless_append hc) hr
    fun hjoin => hvalue.head?_append_ne content hjoin.2
  obtain ⟨offset', hdirective⟩ := hmore [] (directive m ++ ds) (by decide)
    (.inr (openChars_prefix_directive m ds)) (by simp)
  rw [List.append_assoc] at hplaced
  rw [List.nil_append, List.append_nil] at hdirective
  dsimp only at hplaced hdirective
  rw [hplaced, hdirective, advance_append, advance_append q]
  -- up to the text in front of the place, the tokens are the same
  rcases outcome_cases (outcome_advance hworth (rfl : ts.map Token.unplaced = _)) with
    ⟨e, e', he, he', hsame⟩ | ⟨p', q', hp', hq', hworth'⟩
  · rw [he, he']
    exact congrArg Except.error hsame
  have hexpecting := expecting_of_advance hwell hout (fun _ => hp) hp'
  rw [hp', hq']
  obtain ⟨S, os, expecting⟩ := p'
  obtain ⟨S', os', expecting'⟩ := q'
  obtain ⟨hS, hos, rfl⟩ := Worth.mk.inj hworth'
  obtain rfl : expecting = .statement := hexpecting
  calc outcome b (advance ⟨S, os, .statement⟩ (textTokens (ending ++ (value.toList ++ content)) ++
          (⟨rest, false, offset⟩ : Scanner).tokens))
      = outcome b (advance ⟨S ++ textStatements (ending ++ value.toList), os, .statement⟩
          (⟨content ++ rest, false, 0⟩ : Scanner).tokens) := by
        rw [← List.append_assoc]
        exact outcome_text hc hr S os _ offset
    _ = outcome b (advance ⟨S' ++ textStatements ending ++ [.variable m], os', .statement⟩
          (⟨ds, false, 0⟩ : Scanner).tokens) :=
        h _ _ (worth_value hbound hS hos ending) rfl
    _ = outcome b (advance ⟨S', os', .statement⟩
          (textTokens ending ++ (⟨directive m ++ ds, false, offset'⟩ : Scanner).tokens)) :=
        (outcome_directive hname S' os' ending ds offset').symm

/-! ## All places of a pattern -/

/-- An inert text holds no opening bracket. -/
lemma IsInert.bracketless (hx : IsInert x) : ¬ openChars <:+: x.toList :=
  fun h => hx.open_notMem (h.subset List.mem_cons_self)

/-- No bracket arises at either end of an inert text. -/
lemma IsInert.joins (hx : IsInert x) (y : String) : Joins x y :=
  fun h => hx.open_notMem (List.mem_of_getLast? h.1)

/-- An inert text joins whatever comes before it. -/
lemma IsInert.joins_append (hx : IsInert x) (y z : String) : Joins y (x ++ z) := by
  rintro ⟨-, hhead⟩
  rw [String.toList_append] at hhead
  exact hx.head?_append_ne _ hhead

/-- Behind an inert text, which is itself behind a text that ends outside of directives, a text ends outside
as it does by itself. -/
lemma endsOutside_behind (hx : IsInert x) (hfront : EndsOutside y) (z : String) :
    EndsOutside (y ++ (x ++ z)) ↔ EndsOutside z := by
  rw [endsOutside_append_iff hfront (hx.joins_append y z),
    endsOutside_append_iff (endsOutside_of_text hx.bracketless) (hx.joins z)]

/-- What holds of each text in front of a place holds, of the places in the rest, of each text behind the
first place. -/
lemma endsOutside_fronts {rest : List Char} (hx : IsInert x) (h : Text.Replaced x.toList front rest cs)
    (hfronts : ∀ f ∈ Text.fronts x.toList 0 cs, EndsOutside (String.ofList f)) :
    EndsOutside (String.ofList front) ∧
      ∀ f ∈ Text.fronts x.toList 0 rest, EndsOutside (String.ofList f) := by
  rw [h.fronts, List.forall_mem_cons] at hfronts
  obtain ⟨hfront, hrest⟩ := hfronts
  refine ⟨hfront, fun f hf => ?_⟩
  have hbehind := hrest _ (List.mem_map_of_mem hf)
  rw [String.ofList_append, String.ofList_append, String.ofList_toList] at hbehind
  exact (endsOutside_behind hx hfront _).mp hbehind

/-- An inert value may stand instead of the directive that names it at all places of an inert pattern, if
they lie outside of directives. -/
lemma interchangeable_substitute (hname : IsVariableName m) (hbound : b.get? m = some value)
    (hvalue : IsInert value) (hx : IsInert x)
    (hfronts : ∀ front ∈ Text.fronts x.toList 0 cs, EndsOutside (String.ofList front)) :
    Interchangeable b (Text.substitute x.toList value.toList 0 cs)
      (Text.substitute x.toList (directive m) 0 cs) := by
  have hne : x.toList ≠ [] := by simpa using hx.ne_empty
  induction cs using Text.replacing_induction hne with
  | unreplaced cs h =>
      rw [h.substitute, h.substitute]
      exact .refl b cs
  | replaced front rest cs h ih =>
      obtain ⟨hfront, hrest⟩ := endsOutside_fronts hx h hfronts
      rw [h.substitute, h.substitute]
      exact interchangeable_value hname hbound hvalue hfront (ih hrest)

/-- Progress that is worth the same finishes in the same way. -/
lemma finish_of_worth (h : p.worth b = q.worth b) :
    (∃ S T, p.finish = .ok S ∧ q.finish = .ok T ∧ evaluateAll b S = evaluateAll b T) ∨
      ∃ e, p.finish = .error e ∧ q.finish = .error e := by
  obtain ⟨S, os, expecting⟩ := p
  obtain ⟨T, os', expecting'⟩ := q
  obtain ⟨hblock, hopen, rfl⟩ := Worth.mk.inj h
  cases expecting with
  | condition negated => exact .inr ⟨_, rfl, rfl⟩
  | statement =>
      cases openAlike_of_worth hopen with
      | none => exact .inl ⟨S, T, rfl, rfl, hblock⟩
      | thenBranch | elseBranch => exact .inr ⟨_, rfl, rfl⟩

/-- Texts that are read on as the same render to the same, or fail in the same way. -/
lemma render_of_interchangeable (h : Interchangeable b x.toList y.toList) :
    (render x b).mapError RenderError.unplaced = (render y b).mapError RenderError.unplaced := by
  have hparse (z : String) : parse z =
      (advance {} (⟨z.toList, false, 0⟩ : Scanner).tokens).bind Progress.finish := by
    rw [parse, readStatements, readFrom_fst, tokenize, Scanner.start]
  rw [render, render, hparse, hparse]
  rcases outcome_cases (h {} {} rfl rfl) with ⟨e, e', he, he', hsame⟩ | ⟨p, q, hp, hq, hworth⟩
  · rw [he, he']
    simp only [Except.bind, Except.mapError, RenderError.unplaced, hsame]
  · rw [hp, hq]
    rcases finish_of_worth hworth with ⟨S, T, hS, hT, hvalue⟩ | ⟨e, he, he'⟩
    · simp only [Except.bind, hS, hT, hvalue]
    · simp only [Except.bind, he, he']

/-- **A value may be put in before or after reading.** Where the places of an inert pattern lie outside of
directives, it makes no difference whether an inert value is put there or a directive that names the value:
the text is the same, and so is the error but for the position of an invalid character. -/
lemma render_replaceAll (hname : IsVariableName m) (hbound : b.get? m = some value)
    (hvalue : IsInert value) (hx : IsInert x) (template : String)
    (hfronts : ∀ front ∈ Text.fronts x.toList 0 template.toList, EndsOutside (String.ofList front)) :
    (render (Text.replaceAll template x value) b).mapError RenderError.unplaced =
      (render (Text.replaceAll template x (String.ofList (directive m))) b).mapError
        RenderError.unplaced := by
  refine render_of_interchangeable ?_
  rw [Text.toList_replaceAll hx.ne_empty, Text.toList_replaceAll hx.ne_empty, String.toList_ofList]
  exact interchangeable_substitute hname hbound hvalue hx hfronts

/-! ## What stands in directives -/

/-- The tokens of a template that are no text: its brackets and what stands between them, without the
positions of invalid characters. -/
def directiveTokens (template : String) : List Token :=
  ((tokenize template).filter (·.kind ≠ .text)).map Token.unplaced

/-- The tokens of directives of two texts that join are those of the one and then of the other. -/
lemma directiveTokens_append (hx : EndsOutside x) (hjoin : Joins x y) :
    directiveTokens (x ++ y) = directiveTokens x ++ directiveTokens y := by
  have htext (content : List Char) : (textTokens content).filter (·.kind ≠ .text) = [] := by
    unfold textTokens
    split <;> rfl
  have hfilter (ts : List Token) : (ts.filter (·.kind ≠ .text)).map Token.unplaced =
      (ts.map Token.unplaced).filter (·.kind ≠ .text) := by
    simp only [List.filter_map, Function.comp_def, kind_unplaced]
  obtain ⟨ts, us, us', ending, content, hsame, hx, hy, happend⟩ := exists_tokenize_append hx hjoin
  simp only [directiveTokens, hx, hy, happend, List.filter_append, htext, List.append_nil,
    List.nil_append, List.map_append]
  rw [hfilter us', hsame, ← hfilter us]

/-- An inert text has no directives. -/
lemma IsInert.directiveTokens (hx : IsInert x) : directiveTokens x = [] := by
  rw [Template.directiveTokens, tokenize_of_text hx.bracketless, textTokens]
  split <;> rfl

/-- The directives of a template stay the same when inert values are put in outside of them. -/
lemma directiveTokens_substitute (hvalue : IsInert value) (hx : IsInert x)
    (hfronts : ∀ front ∈ Text.fronts x.toList 0 cs, EndsOutside (String.ofList front)) :
    directiveTokens (String.ofList (Text.substitute x.toList value.toList 0 cs)) =
      directiveTokens (String.ofList cs) := by
  have hne : x.toList ≠ [] := by simpa using hx.ne_empty
  have hplace {y : String} (hy : IsInert y) {front : String} (hfront : EndsOutside front)
      (z : String) : directiveTokens (front ++ (y ++ z)) =
        directiveTokens front ++ directiveTokens z := by
    rw [directiveTokens_append hfront (hy.joins_append front z),
      directiveTokens_append (endsOutside_of_text hy.bracketless) (hy.joins z), hy.directiveTokens,
      List.nil_append]
  induction cs using Text.replacing_induction hne with
  | unreplaced cs h => rw [h.substitute]
  | replaced front rest cs h ih =>
      obtain ⟨hfront, hrest⟩ := endsOutside_fronts hx h hfronts
      rw [h.substitute, h.eq]
      simp only [String.ofList_append, String.ofList_toList]
      rw [hplace hvalue hfront, hplace hx hfront, ih hrest]

/-- Replacing an inert text outside of directives leaves the tokens of directives as they are. -/
lemma directiveTokens_replaceAll (hvalue : IsInert value) (hx : IsInert x) (template : String)
    (hfronts : ∀ front ∈ Text.fronts x.toList 0 template.toList, EndsOutside (String.ofList front)) :
    directiveTokens (Text.replaceAll template x value) = directiveTokens template := by
  have h := directiveTokens_substitute hvalue hx hfronts
  rwa [← Text.toList_replaceAll hx.ne_empty, String.ofList_toList, String.ofList_toList] at h

end Scaffold.Template
