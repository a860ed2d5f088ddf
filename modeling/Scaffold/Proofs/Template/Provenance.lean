import Mathlib.Tactic.Lemma
import Scaffold.Proofs.Template.Grammar
import Scaffold.Proofs.Template.Scanning
import Scaffold.Proofs.Template.Tracing
import Scaffold.Template.Render

/-!
# Where the characters of a rendering come from

* `Bindings.Only`: the texts that names are bound to have only characters of a kind.
* `only_evaluateAll`, `only_render`: a value has only characters of a kind if the texts, or the template,
  and the bindings have no others.
* `render_ne_notAStatement`: a template never renders to the complaint that something is no
  statement.
-/

namespace Scaffold.Template

variable {b : Bindings} {S : List Statement} {template value name typeName : String} {c : Char}
  {P : Char → Prop}

/-! ## Values -/

/-- Every text that a name is bound to has only characters of a kind. -/
def Bindings.Only (P : Char → Prop) (b : Bindings) : Prop :=
  ∀ name value, b.get? name = some value → ∀ c ∈ value.toList, P c

/-- The values of bindings have only the characters that the bindings have. -/
lemma Bindings.Only.find (hb : b.Only P) (h : b.find name = .ok value) : ∀ c ∈ value.toList, P c := by
  unfold Bindings.find at h
  cases hget : b.get? name with
  | none => simp [hget] at h
  | some text =>
      simp only [hget, Except.ok.injEq] at h
      subst h
      exact hb name text hget

/-- The value of a list is put together of those of its first member and of the others. -/
lemma evaluateAll_cons_eq_ok {s : Statement} (h : evaluateAll b (s :: S) = .ok value) :
    ∃ first rest, evaluate b s = .ok first ∧ evaluateAll b S = .ok rest ∧ value = first ++ rest := by
  rw [evaluateAll] at h
  cases hfirst : evaluate b s with
  | error e => simp [hfirst, bind, Except.bind] at h
  | ok first =>
      cases hrest : evaluateAll b S with
      | error e => simp [hfirst, hrest, bind, Except.bind] at h
      | ok rest =>
          simp only [hfirst, hrest, bind, Except.bind, pure, Except.pure, Except.ok.injEq] at h
          exact ⟨first, rest, rfl, rfl, h.symm⟩

/-- A conditional is worth one of its branches. -/
lemma evaluate_conditional_eq_ok {n : String} {negated : Bool} {T : List Statement}
    {F : Option (List Statement)} (h : evaluate b (.conditional n negated T F) = .ok value) :
    evaluateAll b T = .ok value ∨ evaluateElse b F = .ok value := by
  rw [evaluate] at h
  cases hfind : b.find n with
  | error e => simp [hfind, bind, Except.bind] at h
  | ok text =>
      simp only [hfind, bind, Except.bind] at h
      split at h
      · exact .inl h
      · exact .inr h

/-- A value has only characters of a kind if the texts and the bindings have no others. -/
theorem only_evaluateAll {IsName : String → Prop} (hb : b.Only P)
    (hS : allBuiltFrom (fun content => ∀ c ∈ content.toList, P c) IsName S)
    (h : evaluateAll b S = .ok value) : ∀ c ∈ value.toList, P c := by
  -- a conditional is worth one of its branches, so the hypotheses for both branches are needed
  have happend : ∀ {first rest : String}, (∀ c ∈ first.toList, P c) → (∀ c ∈ rest.toList, P c) →
      ∀ c ∈ (first ++ rest).toList, P c := by
    intro first rest hfirst hrest c hc
    rw [String.toList_append] at hc
    exact (List.mem_append.mp hc).elim (hfirst c) (hrest c)
  induction S using statements_induction generalizing value with
  | nil =>
      rw [evaluateAll, Except.ok.injEq] at h
      subst h
      simp
  | text content ss ih =>
      obtain ⟨hcontent, hss⟩ := allBuiltFrom_cons.mp hS
      obtain ⟨first, rest, hfirst, hrest, rfl⟩ := evaluateAll_cons_eq_ok h
      rw [evaluate, Except.ok.injEq] at hfirst
      subst hfirst
      exact happend (builtFrom_text.mp hcontent) (ih hss hrest)
  | name n ss ih =>
      obtain ⟨-, hss⟩ := allBuiltFrom_cons.mp hS
      obtain ⟨first, rest, hfirst, hrest, rfl⟩ := evaluateAll_cons_eq_ok h
      rw [evaluate] at hfirst
      exact happend (hb.find hfirst) (ih hss hrest)
  | choice n negated T ss ihT ih =>
      obtain ⟨hchoice, hss⟩ := allBuiltFrom_cons.mp hS
      obtain ⟨-, hT⟩ := builtFrom_choice.mp hchoice
      obtain ⟨first, rest, hfirst, hrest, rfl⟩ := evaluateAll_cons_eq_ok h
      refine happend ?_ (ih hss hrest)
      rcases evaluate_conditional_eq_ok hfirst with hfirst | hfirst
      · exact ihT hT hfirst
      · rw [evaluateElse, Except.ok.injEq] at hfirst
        subst hfirst
        simp
  | choiceElse n negated T F ss ihT ihF ih =>
      obtain ⟨hchoice, hss⟩ := allBuiltFrom_cons.mp hS
      obtain ⟨-, hT, hF⟩ := builtFrom_choiceElse.mp hchoice
      obtain ⟨first, rest, hfirst, hrest, rfl⟩ := evaluateAll_cons_eq_ok h
      refine happend ?_ (ih hss hrest)
      rcases evaluate_conditional_eq_ok hfirst with hfirst | hfirst
      · exact ihT hT hfirst
      · rw [evaluateElse] at hfirst
        exact ihF hF hfirst
  | foreign typeName ss ih =>
      exact absurd (allBuiltFrom_cons.mp hS).1 not_builtFrom_foreign

/-- Nothing foreign is met where all are statements. -/
lemma foreign_notMem_traceAll (hS : Genuine S) : .foreign typeName ∉ traceAll b S := by
  induction S using statements_induction with
  | nil => simp [traceAll]
  | text content ss ih =>
      have hss := ih (allBuiltFrom_cons.mp hS).2
      simpa [traceAll, Statement.trace] using hss
  | name n ss ih =>
      have hss := ih (allBuiltFrom_cons.mp hS).2
      simpa [traceAll, Statement.trace] using hss
  | choice n negated T ss ihT ih =>
      obtain ⟨hchoice, hss⟩ := allBuiltFrom_cons.mp hS
      have hT := ihT (builtFrom_choice.mp hchoice).2
      have hss := ih hss
      cases hget : b.get? n with
      | none => simp [traceAll, Statement.trace, hget, hss]
      | some value =>
          rw [traceAll, trace_conditional_of_bound hget]
          split
          · simp [hT, hss]
          · simp [traceElse, hss]
  | choiceElse n negated T F ss ihT ihF ih =>
      obtain ⟨hchoice, hss⟩ := allBuiltFrom_cons.mp hS
      have hT := ihT (builtFrom_choiceElse.mp hchoice).2.1
      have hF := ihF (builtFrom_choiceElse.mp hchoice).2.2
      have hss := ih hss
      cases hget : b.get? n with
      | none => simp [traceAll, Statement.trace, hget, hss]
      | some value =>
          rw [traceAll, trace_conditional_of_bound hget]
          split
          · simp [hT, hss]
          · simp [traceElse, hF, hss]
  | foreign typeName ss ih => exact absurd (allBuiltFrom_cons.mp hS).1 not_builtFrom_foreign

/-- The complaint that something is no statement is made only where something is none. -/
lemma evaluateAll_ne_notAStatement (hS : Genuine S) :
    evaluateAll b S ≠ .error (.notAStatement typeName) := by
  intro h
  have hfault := error?_evaluateAll b S
  rw [error?_eq_some_iff.mpr h, eq_comm] at hfault
  obtain ⟨x, hx, hxfault⟩ := List.exists_of_findSome?_eq_some hfault
  cases x with
  | lookup n =>
      simp only [Encounter.fault?] at hxfault
      split at hxfault
      · cases hxfault
      · cases hxfault
  | foreign other => exact foreign_notMem_traceAll hS hx

/-! ## Renderings -/

/-- The characters of a text token stand in the template. -/
lemma mem_of_mem_tokens {s : Scanner} {t : Token} (ht : t ∈ s.tokens) (hkind : t.kind = .text)
    (hc : c ∈ t.value.toList) : c ∈ s.rest := by
  induction s using scanner_induction with
  | done s hnone =>
      rw [Scanner.tokens_of_next?_eq_none hnone] at ht
      cases ht
  | scan s u s' hscans ih =>
      rw [tokens_of_scans hscans] at ht
      obtain ⟨gap, hrest, -⟩ := hscans.exists_gap
      rw [hrest]
      rcases List.mem_cons.mp ht with rfl | ht
      · have hlexeme : t.lexeme = t.value.toList := by
          rw [Token.lexeme, hkind]
        apply List.mem_append_left
        apply List.mem_append_right
        rwa [hlexeme]
      · exact List.mem_append_right _ (ih ht)

/-- A rendering has only characters of a kind if the template and the bindings have no others. -/
theorem only_render (hb : b.Only P) (htemplate : ∀ c ∈ template.toList, P c)
    (h : render template b = .ok value) : ∀ c ∈ value.toList, P c := by
  unfold render at h
  cases hparse : parse template with
  | error e => simp [hparse] at h
  | ok S =>
      cases hvalue : evaluateAll b S with
      | error e => simp [hparse, hvalue] at h
      | ok text =>
          simp only [hparse, hvalue, Except.ok.injEq] at h
          subst h
          have hS : allBuiltFrom (fun content => ∀ c ∈ content.toList, P c) (fun _ => True) S := by
            refine allBuiltFrom_of_readStatements (fun t ht hkind c hc => ?_) (fun _ _ _ => trivial)
              hparse
            exact htemplate c (mem_of_mem_tokens ht hkind hc)
          exact only_evaluateAll hb hS hvalue

/-- Only statements are read, so none of them is refused. -/
theorem render_ne_notAStatement :
    render template b ≠ .error (.evaluationError (.notAStatement typeName)) := by
  intro h
  unfold render at h
  cases hparse : parse template with
  | error e => simp [hparse] at h
  | ok S =>
      cases hvalue : evaluateAll b S with
      | ok text => simp [hparse, hvalue] at h
      | error e =>
          simp only [hparse, hvalue, Except.error.injEq, RenderError.evaluationError.injEq] at h
          subst h
          exact evaluateAll_ne_notAStatement (genuine_of_readStatements hparse) hvalue

end Scaffold.Template
