import Mathlib.Tactic.Lemma
import Scaffold.Proofs.Template.Joining

/-!
# Templates inside of a conditional

Between the directives of a conditional two templates can be put as they are. Each of them reads as it
does alone, so the conditional renders to what one of them renders to.

* `choice`: two templates, or one, in the branches of a conditional.
* `leads_template`: scanner and reader come through a template in front of a bracket, whatever is open
  around it.
* `parse_choice`: the statement of a choice, with the statements of the templates as its branches.
* `render_choice`: what a choice renders to.
-/

namespace Scaffold.Template

variable {S : List Statement} {a name : String} {b : Option String}

/-- A conditional with one template as its branch, and another one as its `else` branch, if there is
one. -/
def choice (name : String) (negated : Bool) (a : String) (b : Option String) : String :=
  "\x7b% if " ++ (if negated then "!" else "") ++ name ++ " %\x7d" ++ a ++
    b.elim "" ("\x7b% else %\x7d" ++ ·) ++ "\x7b% endif %\x7d"

/-- What the `else` branch of a choice renders to; a missing one renders to nothing. -/
def renderElse (b : Option String) (m : Bindings) : Except RenderError String :=
  b.elim (.ok "") (render · m)

/-! ## Reading a choice -/

/-- The characters of a conditional without an `else` clause. -/
lemma toList_choice (name : String) (negated : Bool) (a : String) :
    (choice name negated a none).toList =
      directive (conditionWords name negated) ++ (a.toList ++ (directive "endif" ++ [])) := by
  cases negated <;> simp [choice, directive, conditionWords]

/-- The characters of a conditional with an `else` clause. -/
lemma toList_choice_else (name : String) (negated : Bool) (a b : String) :
    (choice name negated a (some b)).toList =
      directive (conditionWords name negated) ++ (a.toList ++ (directive "else" ++
        (b.toList ++ (directive "endif" ++ [])))) := by
  cases negated <;> simp [choice, directive, conditionWords]

/-- Scanner and reader come from a template in front of a bracket to its statements, in any block and
inside of any conditionals. -/
lemma leads_template (ha : parse a = .ok S) (hends : EndsOutside a) {rest : List Char}
    (hr : rest = [] ∨ openChars <+: rest) (block : List Statement) (os : List OpenConditional) :
    Leads ⟨a.toList ++ rest, false, ⟨block, os, .statement⟩⟩
      ⟨rest, false, ⟨block ++ S, os, .statement⟩⟩ := by
  intro offset
  have hs : insideAfter false (⟨a.toList, false, offset⟩ : Scanner).tokens = false :=
    (insideAfter_of_bare (bare_tokens (Scanner.start a) offset) false).trans hends
  have hnothing : ¬ openChars <:+: ([] : List Char) := by decide
  obtain ⟨ts, ending, htokens, hmore⟩ := exists_tokens_append ⟨a.toList, false, offset⟩ hs
  obtain ⟨offset', happend⟩ := hmore [] rest hnothing hr (by simp)
  rw [List.nil_append, List.append_nil] at happend
  refine ⟨offset', ts ++ textTokens ending, ?_, ?_⟩
  · rw [happend, List.append_assoc]
  · rw [← htokens]
    exact advance_of_parse ha offset block os

/-- A choice is one conditional, and its branches are the statements of the templates. -/
lemma parse_choice (hname : IsVariableName name) (negated : Bool) (ha : parse a = .ok S)
    (hends : EndsOutside a) :
    parse (choice name negated a none) = .ok [.conditional name negated S none] := by
  have h : Leads _ ⟨[], _, ⟨[] ++ [.conditional name negated S none], [], .statement⟩⟩ :=
    leads_choice hname negated fun rest os hr => leads_template ha hends (.inr hr) [] os
  rw [← toList_choice] at h
  exact parse_of_leads h

/-- A conditional is read with its two branches. -/
lemma parse_choice_else {T : List Statement} {b : String} (hname : IsVariableName name)
    (negated : Bool) (ha : parse a = .ok S) (hends : EndsOutside a) (hb : parse b = .ok T)
    (hends' : EndsOutside b) :
    parse (choice name negated a (some b)) = .ok [.conditional name negated S (some T)] := by
  have h : Leads _ ⟨[], _, ⟨[] ++ [.conditional name negated S (some T)], [], .statement⟩⟩ :=
    leads_choiceElse hname negated
      (fun rest os hr => leads_template ha hends (.inr hr) [] os)
      fun rest os hr => leads_template hb hends' (.inr hr) [] os
  rw [← toList_choice_else] at h
  exact parse_of_leads h

/-! ## The value of a choice -/

/-- One statement alone comes to what it comes to. -/
lemma evaluateAll_singleton (m : Bindings) (s : Statement) : evaluateAll m [s] = evaluate m s := by
  rw [evaluateAll, evaluateAll]
  cases evaluate m s with
  | error e => rfl
  | ok text => simp [bind, Except.bind, pure, Except.pure]

/-- A template that is one conditional renders to nothing but the branch that is taken. -/
lemma render_of_parse_conditional {template : String} {negated : Bool} {T : List Statement}
    {F : Option (List Statement)}
    (h : parse template = .ok [.conditional name negated T F]) (m : Bindings) :
    render template m = match m.get? name with
      | none => .error (.evaluationError (.unbound name))
      | some value =>
        if isTruthy value != negated then (evaluateAll m T).mapError .evaluationError
        else (evaluateElse m F).mapError .evaluationError := by
  rw [render_of_parse h, evaluateAll_singleton, evaluate, Bindings.find]
  cases m.get? name with
  | none => rfl
  | some value =>
      simp only [bind, Except.bind]
      split <;> rfl

/-- **Conditionals compose.** Two templates that parse and end outside of directives can be put into
the branches of a conditional. Where the name is unbound, the conditional fails with that name;
otherwise it renders to what the template in the branch that is taken renders to, be it a text or an
error, and the other template does not matter. A missing `else` branch renders to nothing. -/
theorem render_choice (a : String) (b : Option String) (S : List Statement)
    (ha : parse a = .ok S ∧ EndsOutside a)
    (hb : ∀ b' ∈ b, (∃ T, parse b' = .ok T) ∧ EndsOutside b') (name : String)
    (hname : IsVariableName name) (negated : Bool) (m : Bindings) :
    render (choice name negated a b) m = match m.get? name with
      | none => .error (.evaluationError (.unbound name))
      | some value => if isTruthy value != negated then render a m else renderElse b m := by
  obtain ⟨ha, hends⟩ := ha
  cases b with
  | none =>
      rw [render_of_parse_conditional (parse_choice hname negated ha hends), render_of_parse ha,
        evaluateElse]
      rfl
  | some b =>
      obtain ⟨⟨T, hb⟩, hends'⟩ := hb b rfl
      rw [render_of_parse_conditional (parse_choice_else hname negated ha hends hb hends'),
        render_of_parse ha, renderElse, Option.elim_some, render_of_parse hb, evaluateElse]

/-- A template with a conditional of its own and a text that ends like a bracket begins. -/
def innerTemplate : String :=
  "\x7b% if x %\x7d1\x7b% else %\x7d2\x7b% endif %\x7d\x7b"

/-- A conditional in a conditional, with both truth values, a missing clause and a name that is not
bound. -/
theorem render_choice_innerTemplate :
    render (choice "x" true innerTemplate (some "%\x7d")) ⟨[("x", "false")]⟩ = .ok "2\x7b" ∧
      render (choice "x" false innerTemplate (some "%\x7d")) ⟨[("x", "false")]⟩ = .ok "%\x7d" ∧
      render (choice "x" true innerTemplate none) ⟨[("x", "1")]⟩ = .ok "" ∧
      render (choice "x" true innerTemplate none) {} = .error (.evaluationError (.unbound "x")) := by
  have hx : IsVariableName "x" := ⟨⟨'x', [], rfl, by decide, by simp⟩, by decide⟩
  have htokens : tokenize innerTemplate =
      [.openBracket, .ofWord "if", .ofWord "x", .closeBracket, .text "1", .openBracket,
        .ofWord "else", .closeBracket, .text "2", .openBracket, .ofWord "endif", .closeBracket,
        .text "\x7b"] := by decide +kernel
  have hinner : parse innerTemplate =
      .ok [.conditional "x" false [.text "1"] (some [.text "2"]), .text "\x7b"] := by
    rw [parse, htokens]
    rfl
  have hends : EndsOutside innerTemplate := by
    rw [EndsOutside, htokens]
    rfl
  have hnot : ¬ openChars <:+: "%\x7d".toList := by decide
  have helse : ∀ b ∈ some "%\x7d", (∃ T, parse b = .ok T) ∧ EndsOutside b := by
    rintro b ⟨⟩
    exact ⟨⟨_, parse_of_text hnot⟩, endsOutside_of_text hnot⟩
  have hnone : ∀ b ∈ (none : Option String), (∃ T, parse b = .ok T) ∧ EndsOutside b := by simp
  refine ⟨?_, ?_, ?_, ?_⟩
  · rw [render_choice _ _ _ ⟨hinner, hends⟩ helse "x" hx true, render_of_parse hinner]
    rfl
  · rw [render_choice _ _ _ ⟨hinner, hends⟩ helse "x" hx false, renderElse, Option.elim_some,
      render_of_text hnot]
    rfl
  · rw [render_choice _ _ _ ⟨hinner, hends⟩ hnone "x" hx true]
    rfl
  · rw [render_choice _ _ _ ⟨hinner, hends⟩ hnone "x" hx true]
    rfl

end Scaffold.Template
