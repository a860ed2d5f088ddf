import Mathlib.Tactic.Lemma
import Scaffold.Proofs.Template.Grammar
import Scaffold.Template.Render

/-!
# Templates whose names are bound

A template that can be read renders when all names in it are bound. Which names there are can be seen
from its tokens.

* `exists_evaluateAll_of_bound`: statements whose names are bound have a value.
* `readsWith`: a check that a template can be read and has no other names than some.
* `exists_render_of_readsWith`: a template that passes the check renders under all bindings that have
  these names.
-/

namespace Scaffold.Template

variable {b : Bindings} {names : List String} {template : String}

/-- A bound name has a value. -/
lemma exists_find_of_bound {n : String} (h : (b.get? n).isSome) : ∃ value, b.find n = .ok value := by
  obtain ⟨value, hget⟩ := Option.isSome_iff_exists.mp h
  exact ⟨value, by rw [Bindings.find, hget]⟩

/-- A first statement and the others have a value if both have one. -/
lemma exists_evaluateAll_cons {s : Statement} {ss : List Statement}
    (hs : ∃ first, evaluate b s = .ok first) (hss : ∃ rest, evaluateAll b ss = .ok rest) :
    ∃ text, evaluateAll b (s :: ss) = .ok text := by
  obtain ⟨first, hfirst⟩ := hs
  obtain ⟨rest, hrest⟩ := hss
  exact ⟨first ++ rest, by rw [evaluateAll, hfirst, hrest]; rfl⟩

/-- A conditional has a value if its name is bound and both of its branches have one. -/
lemma exists_evaluate_conditional {n : String} {negated : Bool} {T : List Statement}
    {F : Option (List Statement)} (hn : (b.get? n).isSome)
    (hT : ∃ text, evaluateAll b T = .ok text) (hF : ∃ text, evaluateElse b F = .ok text) :
    ∃ text, evaluate b (.conditional n negated T F) = .ok text := by
  obtain ⟨value, hvalue⟩ := exists_find_of_bound hn
  rw [evaluate, hvalue]
  by_cases htaken : (isTruthy value != negated) = true
  · simpa only [bind, Except.bind, if_pos htaken] using hT
  · simpa only [bind, Except.bind, if_neg htaken] using hF

/-- Statements whose names are bound have a value. -/
lemma exists_evaluateAll_of_bound {IsText : String → Prop} {S : List Statement}
    (h : allBuiltFrom IsText (fun n => (b.get? n).isSome) S) :
    ∃ text, evaluateAll b S = .ok text := by
  induction S using statements_induction with
  | nil => exact ⟨"", by rw [evaluateAll]⟩
  | text content ss ih =>
      exact exists_evaluateAll_cons ⟨content, by rw [evaluate]⟩ (ih (allBuiltFrom_cons.mp h).2)
  | name n ss ih =>
      obtain ⟨hn, hss⟩ := allBuiltFrom_cons.mp h
      refine exists_evaluateAll_cons ?_ (ih hss)
      rw [evaluate]
      exact exists_find_of_bound (builtFrom_variable.mp hn)
  | choice n negated T ss ihT ih =>
      obtain ⟨hs, hss⟩ := allBuiltFrom_cons.mp h
      obtain ⟨hn, hT⟩ := builtFrom_choice.mp hs
      exact exists_evaluateAll_cons
        (exists_evaluate_conditional hn (ihT hT) ⟨"", by rw [evaluateElse]⟩) (ih hss)
  | choiceElse n negated T F ss ihT ihF ih =>
      obtain ⟨hs, hss⟩ := allBuiltFrom_cons.mp h
      obtain ⟨hn, hT, hF⟩ := builtFrom_choiceElse.mp hs
      have helse : ∃ text, evaluateElse b (some F) = .ok text := by
        rw [evaluateElse]
        exact ihF hF
      exact exists_evaluateAll_cons (exists_evaluate_conditional hn (ihT hT) helse) (ih hss)
  | foreign typeName ss ih => exact absurd (allBuiltFrom_cons.mp h).1 not_builtFrom_foreign

/-- A template can be read, and all names in it are among some. -/
def readsWith (names : List String) (cs : List Char) : Bool :=
  let ts := (⟨cs, false, 0⟩ : Scanner).tokens
  ts.all (fun t => t.kind != .variable || names.contains t.value) &&
    match (readStatements ts).1 with
    | .ok _ => true
    | .error _ => false

/-- A template that can be read renders under all bindings that have the names in it. -/
theorem exists_render_of_readsWith (h : readsWith names template.toList = true)
    (hbound : ∀ n ∈ names, (b.get? n).isSome) : ∃ text, render template b = .ok text := by
  simp only [readsWith, Bool.and_eq_true, List.all_eq_true] at h
  obtain ⟨hnames, hread⟩ := h
  cases hparse : parse template with
  | error e =>
      rw [parse, tokenize, Scanner.start] at hparse
      simp [hparse] at hread
  | ok S =>
      have hbuilt : allBuiltFrom (fun _ => True) (fun n => (b.get? n).isSome) S := by
        refine allBuiltFrom_of_readStatements (fun _ _ _ => trivial) (fun t ht hkind => ?_) hparse
        have := hnames t ht
        simp only [hkind, bne_self_eq_false, Bool.false_or, List.contains_iff_mem] at this
        exact hbound _ this
      obtain ⟨text, htext⟩ := exists_evaluateAll_of_bound hbuilt
      exact ⟨text, by rw [render, hparse]; simp only [htext]⟩

end Scaffold.Template
