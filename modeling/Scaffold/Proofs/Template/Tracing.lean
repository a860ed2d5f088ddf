import Mathlib.Tactic.Lemma
import Scaffold.Proofs.Template.Linear
import Scaffold.Template.Render

/-!
# What evaluation meets

The evaluation of statements meets names, which it looks up, and foreign things, which it refuses.
Which ones it meets depends on the values of the conditions that it meets.

* `traceAll`: what is met in reading order, with the branch of each conditional that is taken.
* `error?_evaluateAll`: evaluation fails with the first fault on the trace, and only then.
* `AgreeAlong`: two bindings agree on the names of a trace up to its first fault.
* `evaluateAll_eq_of_agreeAlong`: nothing else about the bindings matters.
* `evaluateAll_follows_trace`: both together, and that more bindings do not change what renders.
-/

namespace Scaffold.Template

/-! ## Traces -/

/-- What evaluation meets. -/
inductive Encounter where
  /-- A name is looked up. -/
  | lookup (name : String)
  /-- A thing stands there that is no statement. -/
  | foreign (typeName : String)
  deriving DecidableEq, Repr

/-- Why evaluation goes no further, if it does not. -/
def Encounter.fault? (b : Bindings) : Encounter → Option EvaluationError
  | .lookup name => if b.get? name = none then some (.unbound name) else none
  | .foreign typeName => some (.notAStatement typeName)

mutual

/-- What is met in a statement. A conditional contributes its name, and then only the branch that the
value of the name selects; a name without a value selects none. -/
def Statement.trace (b : Bindings) : Statement → List Encounter
  | .text _ => []
  | .variable name => [.lookup name]
  | .conditional name negated thenBranch elseBranch =>
    .lookup name ::
      match b.get? name with
      | none => []
      | some value =>
        if isTruthy value != negated then traceAll b thenBranch else traceElse b elseBranch
  | .foreign typeName => [.foreign typeName]

/-- What is met in an `else` branch; in a missing one there is nothing. -/
def traceElse (b : Bindings) : Option (List Statement) → List Encounter
  | none => []
  | some branch => traceAll b branch

/-- What is met in statements, from left to right. -/
def traceAll (b : Bindings) : List Statement → List Encounter
  | [] => []
  | s :: ss => s.trace b ++ traceAll b ss

end

/-! ## The first fault -/

/-- The error of an outcome, if it is one. -/
def error? {ε α : Type} : Except ε α → Option ε
  | .error e => some e
  | .ok _ => none

section

variable {b b' : Bindings} {S T : List Statement} {s : Statement} {n typeName : String}
  {negated : Bool} {xs ys : List Encounter}

/-- Of two texts that are put together, the first error is that of both. -/
lemma error?_append (x y : Except EvaluationError String) :
    error? (do let first ← x; let rest ← y; return first ++ rest) = (error? x).or (error? y) := by
  cases x with
  | error e => rfl
  | ok first =>
      cases y with
      | error e => rfl
      | ok rest => rfl

/-- The value of a first statement and of the others. -/
lemma error?_evaluateAll_cons (s : Statement) (ss : List Statement) :
    error? (evaluateAll b (s :: ss)) = (error? (evaluate b s)).or (error? (evaluateAll b ss)) := by
  rw [evaluateAll, error?_append]

/-- A conditional whose name has a value is traced through the branch that this selects. -/
lemma trace_conditional_of_bound {value : String} (hget : b.get? n = some value)
    (F : Option (List Statement)) :
    Statement.trace b (.conditional n negated T F) =
      .lookup n :: if isTruthy value != negated then traceAll b T else traceElse b F := by
  rw [Statement.trace, hget]

/-- A name that has a value is no fault. -/
lemma fault?_lookup_of_bound {value : String} (hget : b.get? n = some value) :
    (Encounter.lookup n).fault? b = none := by
  simp [Encounter.fault?, hget]

/-- A conditional fails if its name has no value, or as the branch that is taken does. -/
lemma error?_conditional (n : String) (negated : Bool) {F : Option (List Statement)}
    (hT : error? (evaluateAll b T) = (traceAll b T).findSome? (·.fault? b))
    (hF : error? (evaluateElse b F) = (traceElse b F).findSome? (·.fault? b)) :
    error? (evaluate b (.conditional n negated T F)) =
      (Statement.trace b (.conditional n negated T F)).findSome? (·.fault? b) := by
  rw [evaluate, Bindings.find]
  cases hget : b.get? n with
  | none => simp [Statement.trace, Encounter.fault?, hget, error?, bind, Except.bind]
  | some value =>
      rw [trace_conditional_of_bound hget, List.findSome?_cons, fault?_lookup_of_bound hget]
      by_cases htaken : (isTruthy value != negated) = true
      · simpa only [bind, Except.bind, if_pos htaken] using hT
      · simpa only [bind, Except.bind, if_neg htaken] using hF

/-- The error of a first statement and of the others is the first fault on their trace, if this is so
for each of the two. -/
lemma error?_cons_of_eq {ss : List Statement}
    (hs : error? (evaluate b s) = (s.trace b).findSome? (·.fault? b))
    (hss : error? (evaluateAll b ss) = (traceAll b ss).findSome? (·.fault? b)) :
    error? (evaluateAll b (s :: ss)) = (traceAll b (s :: ss)).findSome? (·.fault? b) := by
  rw [error?_evaluateAll_cons, traceAll, List.findSome?_append, hs, hss]

/-- Evaluation fails with the first fault on the trace, and only if there is one. -/
lemma error?_evaluateAll (b : Bindings) (S : List Statement) :
    error? (evaluateAll b S) = (traceAll b S).findSome? (·.fault? b) := by
  induction S using statements_induction with
  | nil => rw [evaluateAll, traceAll]; rfl
  | text content ss ih =>
      refine error?_cons_of_eq ?_ ih
      rw [evaluate, Statement.trace]
      rfl
  | name n ss ih =>
      refine error?_cons_of_eq ?_ ih
      rw [evaluate, Statement.trace, Bindings.find]
      cases hget : b.get? n <;> simp [Encounter.fault?, hget, error?]
  | choice n negated T ss ihT ih =>
      have hmissing : error? (evaluateElse b none) = (traceElse b none).findSome? (·.fault? b) := by
        rw [evaluateElse, traceElse]
        rfl
      exact error?_cons_of_eq (error?_conditional n negated ihT hmissing) ih
  | choiceElse n negated T F ss ihT ihF ih =>
      have helse : error? (evaluateElse b (some F)) =
          (traceElse b (some F)).findSome? (·.fault? b) := by
        rw [evaluateElse, traceElse]
        exact ihF
      exact error?_cons_of_eq (error?_conditional n negated ihT helse) ih
  | foreign typeName ss ih =>
      refine error?_cons_of_eq ?_ ih
      rw [evaluate, Statement.trace]
      rfl

/-- `error?_evaluateAll` for one statement. -/
lemma error?_evaluate (b : Bindings) (s : Statement) :
    error? (evaluate b s) = (s.trace b).findSome? (·.fault? b) := by
  have hlist := error?_evaluateAll b [s]
  rw [error?_evaluateAll_cons, traceAll, List.findSome?_append, evaluateAll, traceAll] at hlist
  simpa [error?] using hlist

/-! ## Bindings that agree -/

/-- Two bindings agree on every name of a trace in front of which there is no fault: it has the same
value under both, or none. -/
def AgreeAlong (b b' : Bindings) (xs : List Encounter) : Prop :=
  ∀ before n, before ++ [.lookup n] <+: xs → (∀ x ∈ before, x.fault? b = none) →
    b'.get? n = b.get? n

/-- Bindings that agree on all names that are looked up agree along the way. -/
lemma AgreeAlong.of_names (h : ∀ n, .lookup n ∈ xs → b'.get? n = b.get? n) :
    AgreeAlong b b' xs :=
  fun _ n hpre _ => h n (hpre.subset (by simp))

/-- They agree along the first part of the way. -/
lemma AgreeAlong.of_prefix (h : AgreeAlong b b' ys) (hpre : xs <+: ys) :
    AgreeAlong b b' xs :=
  fun before n hbefore => h before n (hbefore.trans hpre)

/-- Behind encounters without a fault, the agreement goes on. -/
lemma AgreeAlong.of_append (h : AgreeAlong b b' (xs ++ ys)) (hxs : ∀ x ∈ xs, x.fault? b = none) :
    AgreeAlong b b' ys := by
  intro before n hbefore hnone
  refine h (xs ++ before) n ?_ ?_
  · rw [List.append_assoc]
    exact (List.prefix_append_right_inj xs).mpr hbefore
  · exact List.forall_mem_append.mpr ⟨hxs, hnone⟩

/-- They agree on the first name that is looked up. -/
lemma AgreeAlong.get?_eq (h : AgreeAlong b b' (.lookup n :: xs)) : b'.get? n = b.get? n :=
  h [] n ⟨xs, rfl⟩ (by simp)

/-- A conditional has the same value under bindings that agree along its trace, if its branches
have. -/
lemma evaluate_conditional_of_agreeAlong {F : Option (List Statement)}
    (hT : AgreeAlong b b' (traceAll b T) → evaluateAll b' T = evaluateAll b T)
    (hF : AgreeAlong b b' (traceElse b F) → evaluateElse b' F = evaluateElse b F)
    (h : AgreeAlong b b' (Statement.trace b (.conditional n negated T F))) :
    evaluate b' (.conditional n negated T F) = evaluate b (.conditional n negated T F) := by
  have hname : b'.get? n = b.get? n := by
    rw [Statement.trace] at h
    exact h.get?_eq
  rw [evaluate, evaluate, Bindings.find, Bindings.find, hname]
  cases hget : b.get? n with
  | none => rfl
  | some value =>
      rw [trace_conditional_of_bound hget, ← List.singleton_append] at h
      have hbranch := h.of_append (List.forall_mem_singleton.mpr (fault?_lookup_of_bound hget))
      by_cases htaken : (isTruthy value != negated) = true
      · rw [if_pos htaken] at hbranch
        simp only [bind, Except.bind, if_pos htaken, hT hbranch]
      · rw [if_neg htaken] at hbranch
        simp only [bind, Except.bind, if_neg htaken, hF hbranch]

/-- A first statement and the others have the same value under bindings that agree along their trace,
if this is so for each of the two. -/
lemma evaluateAll_cons_of_agreeAlong {ss : List Statement}
    (hs : AgreeAlong b b' (s.trace b) → evaluate b' s = evaluate b s)
    (hss : AgreeAlong b b' (traceAll b ss) → evaluateAll b' ss = evaluateAll b ss)
    (h : AgreeAlong b b' (traceAll b (s :: ss))) :
    evaluateAll b' (s :: ss) = evaluateAll b (s :: ss) := by
  rw [traceAll] at h
  rw [evaluateAll, evaluateAll, hs (h.of_prefix (List.prefix_append _ _))]
  cases hvalue : evaluate b s with
  | error e => rfl
  | ok first =>
      -- the first statement has a value, so the others are reached
      have hnone := error?_evaluate b s
      rw [hvalue, eq_comm, error?, List.findSome?_eq_none_iff] at hnone
      rw [hss (h.of_append hnone)]

/-- Of the bindings, evaluation depends only on the names that it meets up to the first fault. -/
lemma evaluateAll_eq_of_agreeAlong (h : AgreeAlong b b' (traceAll b S)) :
    evaluateAll b' S = evaluateAll b S := by
  induction S using statements_induction with
  | nil => rw [evaluateAll, evaluateAll]
  | text content ss ih =>
      refine evaluateAll_cons_of_agreeAlong (fun _ => ?_) ih h
      rw [evaluate, evaluate]
  | name n ss ih =>
      refine evaluateAll_cons_of_agreeAlong (fun hs => ?_) ih h
      rw [Statement.trace] at hs
      rw [evaluate, evaluate, Bindings.find, Bindings.find, hs.get?_eq]
  | choice n negated T ss ihT ih =>
      have hmissing : evaluateElse b' none = evaluateElse b none := by
        rw [evaluateElse, evaluateElse]
      exact evaluateAll_cons_of_agreeAlong
        (evaluate_conditional_of_agreeAlong ihT fun _ => hmissing) ih h
  | choiceElse n negated T F ss ihT ihF ih =>
      have helse (hF : AgreeAlong b b' (traceElse b (some F))) :
          evaluateElse b' (some F) = evaluateElse b (some F) := by
        rw [traceElse] at hF
        rw [evaluateElse, evaluateElse, ihF hF]
      exact evaluateAll_cons_of_agreeAlong (evaluate_conditional_of_agreeAlong ihT helse) ih h
  | foreign typeName ss ih =>
      refine evaluateAll_cons_of_agreeAlong (fun _ => ?_) ih h
      rw [evaluate, evaluate]

/-! ## What evaluation depends on -/

/-- There is an error exactly if there is no answer. -/
lemma error?_eq_none_iff {ε α : Type} {x : Except ε α} : error? x = none ↔ ∃ a, x = .ok a := by
  cases x <;> simp [error?]

/-- A result has an error or not. -/
lemma error?_eq_some_iff {ε α : Type} {x : Except ε α} {e : ε} :
    error? x = some e ↔ x = .error e := by
  cases x <;> simp [error?]

/-- Where a template renders, more bindings change nothing. -/
lemma render_of_more_bindings {template text : String} (h : render template b = .ok text)
    (hmore : ∀ n value, b.get? n = some value → b'.get? n = some value) :
    render template b' = .ok text := by
  unfold render at h ⊢
  cases hparse : parse template with
  | error e => simp [hparse] at h
  | ok S =>
      have hvalue : evaluateAll b S = .ok text := by
        cases hS : evaluateAll b S <;> simp_all
      have hfaults := error?_evaluateAll b S
      rw [hvalue, eq_comm, error?, List.findSome?_eq_none_iff] at hfaults
      have hagree : AgreeAlong b b' (traceAll b S) := by
        refine .of_names fun n hn => ?_
        have hfault := hfaults _ hn
        cases hget : b.get? n with
        | none => simp [Encounter.fault?, hget] at hfault
        | some value => exact hmore n value hget
      simp only [evaluateAll_eq_of_agreeAlong hagree, hvalue]

end

/-- **Evaluation follows its trace.** Statements have a value exactly if every name on their trace is
bound and nothing foreign is on it; otherwise the first encounter that is at fault is the error. Under
bindings that agree along the trace up to there, the outcome is the same, and a template that renders
renders to the same text under more bindings. -/
theorem evaluateAll_follows_trace (b : Bindings) (S : List Statement) :
    ((∃ text, evaluateAll b S = .ok text) ↔
      (∀ n, .lookup n ∈ traceAll b S → ∃ value, b.get? n = some value) ∧
        ∀ typeName, .foreign typeName ∉ traceAll b S) ∧
    (∀ e, evaluateAll b S = .error e ↔
      ∃ before x after, traceAll b S = before ++ x :: after ∧
        (∀ y ∈ before, y.fault? b = none) ∧ x.fault? b = some e) ∧
    (∀ b', AgreeAlong b b' (traceAll b S) → evaluateAll b' S = evaluateAll b S) ∧
    ∀ template text b', render template b = .ok text →
      (∀ n value, b.get? n = some value → b'.get? n = some value) →
      render template b' = .ok text := by
  refine ⟨?_, fun e => ?_, fun b' h => evaluateAll_eq_of_agreeAlong h,
    fun template text b' h hmore => render_of_more_bindings h hmore⟩
  · rw [← error?_eq_none_iff, error?_evaluateAll, List.findSome?_eq_none_iff]
    constructor
    · intro h
      refine ⟨fun n hn => ?_, fun typeName hmem => ?_⟩
      · have hfault := h _ hn
        cases hget : b.get? n with
        | none => simp [Encounter.fault?, hget] at hfault
        | some value => exact ⟨value, rfl⟩
      · cases h _ hmem
    · rintro ⟨hbound, hforeign⟩ x hx
      cases x with
      | lookup n =>
          obtain ⟨value, hget⟩ := hbound n hx
          exact fault?_lookup_of_bound hget
      | foreign typeName => exact absurd hx (hforeign typeName)
  · rw [← error?_eq_some_iff, error?_evaluateAll, List.findSome?_eq_some_iff]
    constructor
    · rintro ⟨before, x, after, htrace, hx, hbefore⟩
      exact ⟨before, x, after, htrace, hbefore, hx⟩
    · rintro ⟨before, x, after, htrace, hbefore, hx⟩
      exact ⟨before, x, after, htrace, hx, hbefore⟩

/-- Statements whose first fault stands behind a conditional. The branch of it that is not taken holds a
foreign thing. -/
def forkedStatements : List Statement :=
  [.text "a", .conditional "x" true [.foreign "str"] (some [.variable "y"]), .variable "z",
    .foreign "int"]

/-- A template with a name in the branch that is not taken that has no value. -/
def forkedTemplate : String :=
  "\x7b% if x %\x7d\x7b% y %\x7d\x7b% else %\x7d\x7b% z %\x7d\x7b% endif %\x7d"

/-- The tokens of `forkedTemplate`. -/
def forkedTokens : List Token :=
  [.openBracket, .ofWord "if", .ofWord "x", .closeBracket, .openBracket, .ofWord "y", .closeBracket,
    .openBracket, .ofWord "else", .closeBracket, .openBracket, .ofWord "z", .closeBracket,
    .openBracket, .ofWord "endif", .closeBracket]

/-- Bindings that take the second branch of the conditional in `forkedStatements`. -/
def forkedBindings : Bindings := ⟨[("x", "true"), ("y", "1")]⟩

/-- The same and more of them. -/
def widerBindings : Bindings := ⟨[("w", "2"), ("x", "true"), ("y", "1")]⟩

/-- The names that are looked up, up to what is no statement. -/
lemma traceAll_forkedStatements :
    traceAll forkedBindings forkedStatements =
      [.lookup "x"] ++ [.lookup "y"] ++ .lookup "z" :: [.foreign "int"] := by
  have hx : forkedBindings.get? "x" = some "true" := rfl
  simp [forkedStatements, traceAll, Statement.trace, traceElse, hx, isTruthy]

/-- The first fault on the way is raised, though another follows; with the branch not taken there is
none. -/
theorem evaluateAll_follows_trace_forked :
    evaluateAll forkedBindings forkedStatements = .error (.unbound "z") ∧
      evaluateAll widerBindings forkedStatements = .error (.unbound "z") ∧
      render forkedTemplate widerBindings = .ok "1" := by
  obtain ⟨-, hfault, hagree, hmore⟩ := evaluateAll_follows_trace forkedBindings forkedStatements
  have htrace := traceAll_forkedStatements
  have herror : evaluateAll forkedBindings forkedStatements = .error (.unbound "z") :=
    (hfault _).mpr ⟨_, _, _, htrace, by decide, by decide⟩
  refine ⟨herror, ?_, ?_⟩
  · rw [hagree widerBindings (.of_names ?_), herror]
    intro n hn
    simp only [htrace, List.cons_append, List.nil_append, List.mem_cons, Encounter.lookup.injEq,
      reduceCtorEq, List.not_mem_nil, or_false] at hn
    rcases hn with rfl | rfl | rfl <;> decide
  · have htokens : tokenize forkedTemplate = forkedTokens := by decide +kernel
    have hrender : render forkedTemplate forkedBindings = .ok "1" := by
      rw [render, parse, htokens]
      rfl
    refine hmore forkedTemplate "1" widerBindings hrender ?_
    intro n value hget
    have hne : n ≠ "w" := by
      rintro rfl
      cases hget
    have hbeq : (n == "w") = false := by simpa using hne
    rw [← hget, Bindings.get?, widerBindings, List.lookup_cons, hbeq]
    rfl

end Scaffold.Template
