import Mathlib.Data.List.Infix
import Mathlib.Tactic.Lemma
import Scaffold.Proofs.Template.Linear
import Scaffold.Template.Parse

/-!
# What the reader of tokens accepts

The reader takes brackets for nothing, except between an `if` and its variable, where they are
refused. Everything else has to be the linear form of the statements that it answers with.

* `essence`: a list of tokens without its brackets, and without what the grammar does not look at.
* `HeadersBare`: no bracket stands in the head of a condition.
* `Accepts`: one step of the reader, said rule by rule (`accepts_of_step`).
* `readStatements_eq_ok_iff`: the reader answers with some statements exactly on the token lists
  that these statements linearize to, brackets and positions aside, with bare heads.

Soundness goes through `Progress.linearize`, the tokens that a progress stands for: every step adds
its token to them. Completeness reads the linear form (`advance_linearizeAll`) and then puts the
brackets back (`advance_of_advance_essence`).
-/

namespace Scaffold.Template

/-! ## Tokens as the grammar sees them -/

/-- A token is one of the two brackets. -/
def Token.isBracket (t : Token) : Bool :=
  t.kind == .openBracket || t.kind == .closeBracket

/-- What the grammar looks at in a token: its kind, and the value of a text or a variable. -/
def Token.bare (t : Token) : Token :=
  match t.kind with
  | .text | .variable => { kind := t.kind, value := t.value }
  | kind => { kind }

/-- The bare tokens of a list, without the brackets. -/
def essence (ts : List Token) : List Token :=
  (ts.filter (!·.isBracket)).map Token.bare

@[simp] lemma essence_nil : essence [] = [] := rfl

/-- A bracket is passed over. -/
lemma essence_cons_of_isBracket {t : Token} (h : t.isBracket = true) (ts : List Token) :
    essence (t :: ts) = essence ts := by
  simp [essence, h]

/-- Every other token counts without its position. -/
lemma essence_cons_of_not_isBracket {t : Token} (h : t.isBracket = false) (ts : List Token) :
    essence (t :: ts) = t.bare :: essence ts := by
  simp [essence, h]

@[simp] lemma essence_append (ts us : List Token) :
    essence (ts ++ us) = essence ts ++ essence us := by
  simp [essence]

/-- No bracket comes in a list of kinds right after an `if`, or after an `if` and a `!`. -/
def KindsBare (kinds : List Token.Kind) : Prop :=
  ∀ b ∈ [Token.Kind.openBracket, Token.Kind.closeBracket],
    ¬ [.ifWord, b] <:+: kinds ∧ ¬ [.ifWord, .bang, b] <:+: kinds

/-- No bracket stands directly after an `if`, or directly after a `!` that follows an `if`. -/
def HeadersBare (ts : List Token) : Prop :=
  KindsBare (ts.map Token.kind)

/-- A list of kinds within a bare one is bare. -/
lemma KindsBare.of_suffix {kinds kinds' : List Token.Kind} (h : KindsBare kinds)
    (hs : kinds' <:+ kinds) : KindsBare kinds' := by
  intro b hb
  exact ⟨fun hi => (h b hb).1 (hi.trans hs.isInfix), fun hi => (h b hb).2 (hi.trans hs.isInfix)⟩

/-! ## One step -/

/-- One step of the reader by the kind of its token: a bracket is passed over where a statement may
start, a text or a variable is a statement, the three words open, turn and close a conditional, and
in the head of a condition a variable or a first `!` is taken. -/
inductive Accepts : Progress → Token → Progress → Prop
  | bracket {block os t} (ht : t.isBracket = true) :
      Accepts ⟨block, os, .statement⟩ t ⟨block, os, .statement⟩
  | text {block os t} (ht : t.kind = .text) :
      Accepts ⟨block, os, .statement⟩ t ⟨block ++ [.text t.value], os, .statement⟩
  | name {block os t} (ht : t.kind = .variable) :
      Accepts ⟨block, os, .statement⟩ t ⟨block ++ [.variable t.value], os, .statement⟩
  | ifWord {block os t} (ht : t.kind = .ifWord) :
      Accepts ⟨block, os, .statement⟩ t ⟨block, os, .condition false⟩
  | elseWord {block n negated before os t} (ht : t.kind = .elseWord) :
      Accepts ⟨block, ⟨n, negated, before, none⟩ :: os, .statement⟩ t
        ⟨[], ⟨n, negated, before, some block⟩ :: os, .statement⟩
  | endifWord {block n negated before os t} (ht : t.kind = .endifWord) :
      Accepts ⟨block, ⟨n, negated, before, none⟩ :: os, .statement⟩ t
        ⟨before ++ [.conditional n negated block none], os, .statement⟩
  | endifWordElse {block n negated before T os t} (ht : t.kind = .endifWord) :
      Accepts ⟨block, ⟨n, negated, before, some T⟩ :: os, .statement⟩ t
        ⟨before ++ [.conditional n negated T (some block)], os, .statement⟩
  | bang {block os t} (ht : t.kind = .bang) :
      Accepts ⟨block, os, .condition false⟩ t ⟨block, os, .condition true⟩
  | conditionName {block os negated t} (ht : t.kind = .variable) :
      Accepts ⟨block, os, .condition negated⟩ t
        ⟨[], ⟨t.value, negated, block, none⟩ :: os, .statement⟩

/-- A token that is taken is taken by one of the rules. -/
lemma accepts_of_step {p p' : Progress} {t : Token} (h : p.step t = .ok p') : Accepts p t p' := by
  obtain ⟨block, os, expecting⟩ := p
  obtain ⟨kind, value, position⟩ := t
  cases expecting with
  | statement =>
      cases kind with
      | openBracket => obtain rfl := Except.ok.inj h; exact .bracket rfl
      | closeBracket => obtain rfl := Except.ok.inj h; exact .bracket rfl
      | text => obtain rfl := Except.ok.inj h; exact .text rfl
      | «variable» => obtain rfl := Except.ok.inj h; exact .name rfl
      | ifWord => obtain rfl := Except.ok.inj h; exact .ifWord rfl
      | elseWord =>
          match os, h with
          | ⟨n, negated, before, none⟩ :: os, h =>
              obtain rfl := Except.ok.inj h
              exact .elseWord rfl
      | endifWord =>
          match os, h with
          | ⟨n, negated, before, none⟩ :: os, h =>
              obtain rfl := Except.ok.inj h
              exact .endifWord rfl
          | ⟨n, negated, before, some T⟩ :: os, h =>
              obtain rfl := Except.ok.inj h; exact .endifWordElse rfl
      | invalid => cases h
      | bang => cases h
  | condition negated =>
      cases kind with
      | «variable» =>
          cases negated <;> (obtain rfl := Except.ok.inj h; exact .conditionName rfl)
      | bang =>
          cases negated with
          | false => obtain rfl := Except.ok.inj h; exact .bang rfl
          | true => cases h
      | openBracket | closeBracket | text | ifWord | elseWord | endifWord | invalid =>
          cases negated <;> cases h

/-- Every rule is a step. -/
lemma step_of_accepts {p p' : Progress} {t : Token} (h : Accepts p t p') : p.step t = .ok p' := by
  cases h with
  | bracket ht =>
      simp only [Token.isBracket, Bool.or_eq_true, beq_iff_eq] at ht
      rcases ht with ht | ht <;> simp [Progress.step, Progress.stepStatement, ht]
  | conditionName ht => simp [Progress.step, Progress.stepCondition, ht, Progress.enter]
  | bang ht => simp [Progress.step, Progress.stepCondition, ht]
  | text ht | name ht | ifWord ht | elseWord ht | endifWord ht | endifWordElse ht =>
      simp [Progress.step, Progress.stepStatement, ht, Progress.push, Progress.turn?,
        Progress.leave?]

/-! ## Many steps -/

/-- Going on over two lists is going on over the first and then over the second. -/
lemma advance_append (p : Progress) (ts us : List Token) :
    advance p (ts ++ us) = (advance p ts).bind (advance · us) := by
  induction ts generalizing p with
  | nil => rfl
  | cons t ts ih =>
      rw [List.cons_append, advance, advance]
      cases p.step t with
      | error e => rfl
      | ok p' => exact ih p'

/-- Reading to the end is going on over all tokens and then finishing. -/
lemma readFrom_fst (p : Progress) (ts : List Token) :
    (readFrom p ts).1 = (advance p ts).bind Progress.finish := by
  induction ts generalizing p with
  | nil => rfl
  | cons t ts ih =>
      rw [readFrom, advance]
      cases p.step t with
      | error e => rfl
      | ok p' => exact ih p'

/-- Going on over a first token and the others. -/
lemma advance_cons_eq_ok {p q : Progress} {t : Token} {ts : List Token} :
    advance p (t :: ts) = .ok q ↔ ∃ p', p.step t = .ok p' ∧ advance p' ts = .ok q := by
  rw [advance]
  cases p.step t with
  | error e => simp
  | ok p' => simp

/-- A progress that can finish has no conditional open and answers with its block. -/
lemma finish_eq_ok {p : Progress} {S : List Statement} :
    p.finish = .ok S ↔ p = ⟨S, [], .statement⟩ := by
  obtain ⟨block, os, expecting⟩ := p
  cases expecting with
  | statement => cases os <;> simp [Progress.finish]
  | condition negated => simp [Progress.finish]

/-- The reader answers with the statements of the last progress, if nothing is open then. -/
lemma readStatements_eq_ok {ts : List Token} {S : List Statement} :
    (readStatements ts).1 = .ok S ↔ advance {} ts = .ok ⟨S, [], .statement⟩ := by
  rw [readStatements, readFrom_fst]
  cases advance {} ts with
  | error e => simp [Except.bind]
  | ok q => simp [Except.bind, finish_eq_ok]

/-! ## Nothing is lost -/

/-- The tokens that a progress still expects to be completed into a condition. -/
def Expectation.header : Expectation → List Token
  | .statement => []
  | .condition negated => { kind := .ifWord } :: if negated then [.bang] else []

/-- The tokens up to the innermost block of some open conditionals. -/
def linearizeOpen : List OpenConditional → List Token
  | [] => []
  | ⟨name, negated, before, thenBranch⟩ :: os =>
    linearizeOpen os ++ linearizeAll before ++ condition name negated ++
      match thenBranch with
      | none => []
      | some T => linearizeAll T ++ [{ kind := .elseWord }]

/-- The tokens that a progress stands for. -/
def Progress.linearize (p : Progress) : List Token :=
  linearizeOpen p.openConditionals ++ linearizeAll p.block ++ p.expecting.header

/-- The bare form of a token of some kind that carries no value. -/
lemma bare_of_kind {t : Token} {kind : Token.Kind} (h : t.kind = kind) (ht : kind ≠ .text)
    (hv : kind ≠ .variable) : t.bare = { kind } := by
  subst h
  unfold Token.bare
  split <;> simp_all

/-- The bare form of a text. -/
lemma bare_of_text {t : Token} (h : t.kind = .text) : t.bare = .text t.value := by
  simp [Token.bare, h, Token.text]

/-- The bare form of a variable. -/
lemma bare_of_variable {t : Token} (h : t.kind = .variable) : t.bare = .ofName t.value := by
  simp [Token.bare, h, Token.ofName]

/-- Every step adds its token to what the progress stands for. -/
lemma Accepts.linearize_eq {p p' : Progress} {t : Token} (h : Accepts p t p') :
    p'.linearize = p.linearize ++ essence [t] := by
  have key {kind : Token.Kind} (ht : t.kind = kind) (hb : kind ≠ .openBracket)
      (hc : kind ≠ .closeBracket) : essence [t] = [t.bare] :=
    essence_cons_of_not_isBracket (by subst ht; simp [Token.isBracket, hb, hc]) []
  cases h with
  | bracket ht => simp [essence_cons_of_isBracket ht]
  | text ht => simp [key ht, bare_of_text ht, Progress.linearize, Expectation.header]
  | name ht => simp [key ht, bare_of_variable ht, Progress.linearize, Expectation.header]
  | ifWord ht => simp [key ht, bare_of_kind ht, Progress.linearize, Expectation.header]
  | elseWord ht =>
      simp [key ht, bare_of_kind ht, Progress.linearize, Expectation.header, linearizeOpen]
  | endifWord ht =>
      simp [key ht, bare_of_kind ht, Progress.linearize, Expectation.header, linearizeOpen]
  | endifWordElse ht =>
      simp [key ht, bare_of_kind ht, Progress.linearize, Expectation.header, linearizeOpen]
  | bang ht =>
      simp [key ht, bare_of_kind ht, Progress.linearize, Expectation.header, Token.bang]
  | @conditionName _ _ negated _ ht =>
      cases negated <;> simp [key ht, bare_of_variable ht, Progress.linearize, Expectation.header,
        linearizeOpen, condition, Token.bang]

/-- Going on over a list adds its essence to what the progress stands for. -/
lemma linearize_of_advance {p q : Progress} {ts : List Token} (h : advance p ts = .ok q) :
    q.linearize = p.linearize ++ essence ts := by
  induction ts generalizing p with
  | nil =>
      obtain rfl : p = q := Except.ok.inj h
      simp
  | cons t ts ih =>
      obtain ⟨p', hstep, hrest⟩ := advance_cons_eq_ok.mp h
      rw [ih hrest, (accepts_of_step hstep).linearize_eq, List.append_assoc, ← essence_append,
        List.singleton_append]

/-! ## What is read is made of what is there -/

section BuiltFrom

variable {IsText IsName : String → Prop}

/-- All statements in a progress are built from given texts and names. -/
structure Progress.BuiltFrom (IsText IsName : String → Prop) (p : Progress) : Prop where
  block : allBuiltFrom IsText IsName p.block
  condition : ∀ o ∈ p.openConditionals, IsName o.name
  before : ∀ o ∈ p.openConditionals, allBuiltFrom IsText IsName o.before
  thenBranch : ∀ o ∈ p.openConditionals, ∀ T ∈ o.thenBranch, allBuiltFrom IsText IsName T

/-- A step with a suitable token keeps the statements suitable. -/
lemma Accepts.builtFrom {p p' : Progress} {t : Token} (h : Accepts p t p')
    (ht : t.kind = .text → IsText t.value) (hn : t.kind = .variable → IsName t.value)
    (hp : p.BuiltFrom IsText IsName) : p'.BuiltFrom IsText IsName := by
  obtain ⟨hblock, hname, hbefore, hthen⟩ := hp
  cases h with
  | bracket _ => exact ⟨hblock, hname, hbefore, hthen⟩
  | text hk => exact ⟨by simpa using ⟨hblock, ht hk⟩, hname, hbefore, hthen⟩
  | name hk => exact ⟨by simpa using ⟨hblock, hn hk⟩, hname, hbefore, hthen⟩
  | ifWord _ | bang _ => exact ⟨hblock, hname, hbefore, hthen⟩
  | elseWord _ =>
      simp only [List.forall_mem_cons] at hname hbefore hthen
      exact ⟨by simp, by simpa using hname, by simpa using hbefore,
        by simpa using ⟨hblock, hthen.2⟩⟩
  | endifWord _ =>
      simp only [List.forall_mem_cons] at hname hbefore hthen
      exact ⟨by simpa using ⟨hbefore.1, hname.1, hblock⟩, hname.2, hbefore.2, hthen.2⟩
  | endifWordElse _ =>
      simp only [List.forall_mem_cons, Option.mem_some_iff, forall_eq'] at hname hbefore hthen
      exact ⟨by simpa using ⟨hbefore.1, hname.1, hthen.1, hblock⟩, hname.2, hbefore.2, hthen.2⟩
  | conditionName hk =>
      exact ⟨by simp, by simpa using ⟨hn hk, hname⟩, by simpa using ⟨hblock, hbefore⟩,
        by simpa using hthen⟩

/-- Statements that are read are built from the texts and names of the tokens. -/
lemma allBuiltFrom_of_readStatements {ts : List Token} {S : List Statement}
    (ht : ∀ t ∈ ts, t.kind = .text → IsText t.value)
    (hn : ∀ t ∈ ts, t.kind = .variable → IsName t.value) (h : (readStatements ts).1 = .ok S) :
    allBuiltFrom IsText IsName S := by
  suffices key : ∀ (us : List Token) (p q : Progress), us ⊆ ts → p.BuiltFrom IsText IsName →
      advance p us = .ok q → q.BuiltFrom IsText IsName by
    have hstart : Progress.BuiltFrom IsText IsName {} := ⟨by simp, by simp, by simp, by simp⟩
    exact (key ts _ _ (List.Subset.refl ts) hstart (readStatements_eq_ok.mp h)).block
  intro us
  induction us with
  | nil =>
      intro p q _ hp hq
      obtain rfl : p = q := Except.ok.inj hq
      exact hp
  | cons u us ih =>
      intro p q hsub hp hq
      obtain ⟨hu, hus⟩ := List.cons_subset.mp hsub
      obtain ⟨p', hstep, hrest⟩ := advance_cons_eq_ok.mp hq
      exact ih p' q hus ((accepts_of_step hstep).builtFrom (ht u hu) (hn u hu) hp) hrest

end BuiltFrom

/-! ## The linear form is read back -/

/-- The head of a condition opens a conditional. -/
lemma advance_condition (block : List Statement) (os : List OpenConditional) (name : String)
    (negated : Bool) :
    advance ⟨block, os, .statement⟩ (condition name negated) =
      .ok ⟨[], ⟨name, negated, block, none⟩ :: os, .statement⟩ := by
  cases negated <;> rfl

/-- Two readings one after the other. -/
lemma advance_append_of_eq {p q r : Progress} {ts us : List Token} (h : advance p ts = .ok q)
    (h' : advance q us = .ok r) : advance p (ts ++ us) = .ok r := by
  rw [advance_append, h]
  exact h'

/-- Genuine statements are read from their linear form, and added to the block. -/
lemma advance_linearizeAll {S : List Statement} (hS : Genuine S) (block : List Statement)
    (os : List OpenConditional) :
    advance ⟨block, os, .statement⟩ (linearizeAll S) = .ok ⟨block ++ S, os, .statement⟩ := by
  induction S using statements_induction generalizing block os with
  | nil => simp [advance]
  | text content ss ih =>
      have hss : Genuine ss := (allBuiltFrom_cons.mp hS).2
      rw [linearizeAll_cons, linearize_text]
      refine advance_append_of_eq (q := ⟨block ++ [.text content], os, .statement⟩) rfl ?_
      rw [ih hss, List.append_assoc, List.singleton_append]
  | name n ss ih =>
      have hss : Genuine ss := (allBuiltFrom_cons.mp hS).2
      rw [linearizeAll_cons, linearize_variable]
      refine advance_append_of_eq (q := ⟨block ++ [.variable n], os, .statement⟩) rfl ?_
      rw [ih hss, List.append_assoc, List.singleton_append]
  | choice n negated T ss ihT ih =>
      have hss : Genuine ss := (allBuiltFrom_cons.mp hS).2
      have hT : Genuine T := (builtFrom_choice.mp (allBuiltFrom_cons.mp hS).1).2
      rw [linearizeAll_cons, linearize_choice]
      have hthen := ihT hT [] (⟨n, negated, block, none⟩ :: os)
      have hhead := advance_append_of_eq (advance_condition block os n negated) hthen
      have hend : advance ⟨[] ++ T, ⟨n, negated, block, none⟩ :: os, .statement⟩
          [{ kind := .endifWord }] =
            .ok ⟨block ++ [.conditional n negated T none], os, .statement⟩ := rfl
      refine advance_append_of_eq (advance_append_of_eq hhead hend) ?_
      rw [ih hss, List.append_assoc, List.singleton_append]
  | choiceElse n negated T F ss ihT ihF ih =>
      have hss : Genuine ss := (allBuiltFrom_cons.mp hS).2
      have hT : Genuine T := (builtFrom_choiceElse.mp (allBuiltFrom_cons.mp hS).1).2.1
      have hF : Genuine F := (builtFrom_choiceElse.mp (allBuiltFrom_cons.mp hS).1).2.2
      rw [linearizeAll_cons, linearize_choiceElse]
      have hthen := ihT hT [] (⟨n, negated, block, none⟩ :: os)
      have hhead := advance_append_of_eq (advance_condition block os n negated) hthen
      have helse := ihF hF [] (⟨n, negated, block, some T⟩ :: os)
      have hturn : advance ⟨[] ++ T, ⟨n, negated, block, none⟩ :: os, .statement⟩
          ({ kind := .elseWord } :: linearizeAll F) =
            .ok ⟨F, ⟨n, negated, block, some T⟩ :: os, .statement⟩ := helse
      have hend : advance ⟨F, ⟨n, negated, block, some T⟩ :: os, .statement⟩
          [{ kind := .endifWord }] =
            .ok ⟨block ++ [.conditional n negated T (some F)], os, .statement⟩ := rfl
      refine advance_append_of_eq (advance_append_of_eq (advance_append_of_eq hhead hturn) hend) ?_
      rw [ih hss, List.append_assoc, List.singleton_append]
  | foreign typeName ss ih => exact absurd (allBuiltFrom_cons.mp hS).1 not_builtFrom_foreign

/-! ## Brackets -/

/-- The bare form keeps the kind. -/
lemma bare_kind (t : Token) : t.bare.kind = t.kind := by
  unfold Token.bare
  split <;> simp_all

/-- The bare form keeps the value of a text or a variable. -/
lemma bare_value {t : Token} (h : t.kind = .text ∨ t.kind = .variable) :
    t.bare.value = t.value := by
  rcases h with h | h <;> simp [Token.bare, h]

/-- A token is taken as its bare form is. -/
lemma step_of_step_bare {p p' : Progress} {t : Token} (h : p.step t.bare = .ok p') :
    p.step t = .ok p' := by
  have hvalue := bare_value (t := t)
  have hkind := bare_kind t
  generalize t.bare = u at h hvalue hkind
  refine step_of_accepts ?_
  cases accepts_of_step h with
  | bracket hk => exact .bracket (by simpa [Token.isBracket, hkind] using hk)
  | text hk => rw [hvalue (.inl (hkind ▸ hk))]; exact .text (hkind ▸ hk)
  | name hk => rw [hvalue (.inr (hkind ▸ hk))]; exact .name (hkind ▸ hk)
  | conditionName hk => rw [hvalue (.inr (hkind ▸ hk))]; exact .conditionName (hkind ▸ hk)
  | ifWord hk => exact .ifWord (hkind ▸ hk)
  | elseWord hk => exact .elseWord (hkind ▸ hk)
  | endifWord hk => exact .endifWord (hkind ▸ hk)
  | endifWordElse hk => exact .endifWordElse (hkind ▸ hk)
  | bang hk => exact .bang (hkind ▸ hk)

/-- The kinds of the tokens of an unfinished head. -/
def Expectation.headerKinds (e : Expectation) : List Token.Kind :=
  e.header.map Token.kind

/-- What a step leaves of an unfinished head ends the head before it and its token. -/
lemma Accepts.headerKinds_suffix {p p' : Progress} {t : Token} (h : Accepts p t p') :
    p'.expecting.headerKinds <:+ p.expecting.headerKinds ++ [t.kind] := by
  cases h with
  | ifWord ht => simp [Expectation.headerKinds, Expectation.header, ht]
  | bang ht => simp [Expectation.headerKinds, Expectation.header, ht, Token.bang]
  | bracket _ | text _ | name _ | elseWord _ | endifWord _ | endifWordElse _ | conditionName _ =>
      exact List.nil_suffix

/-- In the head of a condition no bracket can follow if the heads are bare. -/
lemma not_isBracket_of_kindsBare {negated : Bool} {t : Token} {kinds : List Token.Kind}
    (h : KindsBare ((Expectation.condition negated).headerKinds ++ t.kind :: kinds)) :
    t.isBracket = false := by
  rw [Bool.eq_false_iff]
  intro hb
  have hmem : t.kind ∈ [Token.Kind.openBracket, Token.Kind.closeBracket] := by
    simpa [Token.isBracket] using hb
  obtain ⟨h₁, h₂⟩ := h t.kind hmem
  cases negated with
  | false => exact h₁ ⟨[], kinds, rfl⟩
  | true => exact h₂ ⟨[], kinds, rfl⟩

/-- With bare heads, brackets may be put back into what is read: they change nothing. -/
lemma advance_of_advance_essence {ts : List Token} {p q : Progress}
    (hbare : KindsBare (p.expecting.headerKinds ++ ts.map Token.kind))
    (h : advance p (essence ts) = .ok q) : advance p ts = .ok q := by
  induction ts generalizing p with
  | nil => exact h
  | cons t ts ih =>
      rw [List.map_cons] at hbare
      cases hb : t.isBracket with
      | true =>
          obtain ⟨block, os, expecting⟩ := p
          cases expecting with
          | statement =>
              rw [essence_cons_of_isBracket hb] at h
              have hstep :
                  (⟨block, os, .statement⟩ : Progress).step t = .ok ⟨block, os, .statement⟩ :=
                step_of_accepts (.bracket hb)
              have htail : KindsBare (ts.map Token.kind) := hbare.of_suffix (List.suffix_cons _ _)
              exact advance_cons_eq_ok.mpr ⟨_, hstep, ih htail h⟩
          | condition negated => rw [not_isBracket_of_kindsBare hbare] at hb; cases hb
      | false =>
          rw [essence_cons_of_not_isBracket hb] at h
          obtain ⟨p', hstep, hrest⟩ := advance_cons_eq_ok.mp h
          have hstep' := step_of_step_bare hstep
          have hsuffix := (accepts_of_step hstep').headerKinds_suffix
          have hbare' : KindsBare (p'.expecting.headerKinds ++ ts.map Token.kind) := by
            refine hbare.of_suffix ?_
            obtain ⟨front, hfront⟩ := hsuffix
            exact ⟨front, by rw [← List.append_assoc, hfront, List.append_assoc,
              List.singleton_append]⟩
          exact advance_cons_eq_ok.mpr ⟨p', hstep', ih hbare' hrest⟩

/-- After an `if` has been taken, a condition is expected. -/
lemma advance_ifWord {p q : Progress} {t : Token} {ts : List Token} (ht : t.kind = .ifWord)
    (h : advance p (t :: ts) = .ok q) :
    ∃ block os, advance ⟨block, os, .condition false⟩ ts = .ok q := by
  obtain ⟨p', hstep, hrest⟩ := advance_cons_eq_ok.mp h
  cases accepts_of_step hstep with
  | ifWord _ => exact ⟨_, _, hrest⟩
  | bracket hb => simp [Token.isBracket, ht] at hb
  | text hk | name hk | elseWord hk | endifWord hk | endifWordElse hk | bang hk
  | conditionName hk => simp [ht] at hk

/-- Where a condition is expected, no bracket is taken. -/
lemma not_advance_bracket {block : List Statement} {os : List OpenConditional} {negated : Bool}
    {t : Token} {ts : List Token} {q : Progress} (ht : t.isBracket = true) :
    advance ⟨block, os, .condition negated⟩ (t :: ts) ≠ .ok q := by
  intro h
  obtain ⟨p', hstep, -⟩ := advance_cons_eq_ok.mp h
  cases accepts_of_step hstep with
  | bang hk | conditionName hk => simp [Token.isBracket, hk] at ht

/-- Tokens of given kinds that stand somewhere in what is read are read from some progress on. -/
lemma exists_advance_of_infix {p q : Progress} {ts : List Token} {ks : List Token.Kind}
    (h : advance p ts = .ok q) (hks : ks <:+: ts.map Token.kind) :
    ∃ p₁ us rest, us.map Token.kind = ks ∧ advance p₁ (us ++ rest) = .ok q := by
  obtain ⟨before, after, heq⟩ := hks
  rw [List.append_assoc, eq_comm, List.map_eq_append_iff] at heq
  obtain ⟨ts₁, ts₂, rfl, -, heq⟩ := heq
  obtain ⟨us, rest, rfl, hus, -⟩ := List.map_eq_append_iff.mp heq
  rw [advance_append] at h
  cases hp : advance p ts₁ with
  | error e =>
      rw [hp] at h
      cases h
  | ok p₁ =>
      rw [hp] at h
      exact ⟨p₁, us, rest, hus, h⟩

/-- What is read has bare heads. -/
lemma headersBare_of_advance {p q : Progress} {ts : List Token} (h : advance p ts = .ok q) :
    HeadersBare ts := by
  intro b hb
  have hbracket : ∀ t : Token, t.kind = b → t.isBracket = true := by
    rintro t rfl
    simpa [Token.isBracket] using hb
  constructor
  · intro hinfix
    obtain ⟨p₁, us, rest, hus, hread⟩ := exists_advance_of_infix h hinfix
    obtain ⟨i, us, rfl, hi, hus⟩ := List.map_eq_cons_iff.mp hus
    obtain ⟨g, us, rfl, hg, -⟩ := List.map_eq_cons_iff.mp hus
    obtain ⟨block, os, hhead⟩ := advance_ifWord hi hread
    exact not_advance_bracket (hbracket g hg) hhead
  · intro hinfix
    obtain ⟨p₁, us, rest, hus, hread⟩ := exists_advance_of_infix h hinfix
    obtain ⟨i, us, rfl, hi, hus⟩ := List.map_eq_cons_iff.mp hus
    obtain ⟨n, us, rfl, hn, hus⟩ := List.map_eq_cons_iff.mp hus
    obtain ⟨g, us, rfl, hg, -⟩ := List.map_eq_cons_iff.mp hus
    obtain ⟨block, os, hhead⟩ := advance_ifWord hi hread
    obtain ⟨p₂, hstep, hbehind⟩ := advance_cons_eq_ok.mp hhead
    cases accepts_of_step hstep with
    | bang _ => exact not_advance_bracket (hbracket g hg) hbehind
    | conditionName hk => simp [hn] at hk

/-! ## The grammar -/

/-- Token lists that linearize statements, with bare heads, read as these statements. -/
lemma readStatements_of_essence {ts : List Token} {S : List Statement} (hS : Genuine S)
    (hts : essence ts = linearizeAll S) (hbare : HeadersBare ts) :
    (readStatements ts).1 = .ok S := by
  rw [readStatements_eq_ok]
  refine advance_of_advance_essence hbare ?_
  rw [hts]
  exact advance_linearizeAll hS [] []

/-- The statements that are read linearize to the tokens without the brackets. -/
lemma essence_of_readStatements {ts : List Token} {S : List Statement}
    (h : (readStatements ts).1 = .ok S) : essence ts = linearizeAll S := by
  have := linearize_of_advance (readStatements_eq_ok.mp h)
  simpa [Progress.linearize, Expectation.header, linearizeOpen] using this.symm

/-- Nothing foreign is ever read. -/
lemma genuine_of_readStatements {ts : List Token} {S : List Statement}
    (h : (readStatements ts).1 = .ok S) : Genuine S :=
  allBuiltFrom_of_readStatements (fun _ _ _ => trivial) (fun _ _ _ => trivial) h

/-- **What is accepted, and as what.** A list of tokens reads as some statements exactly when,
without its brackets, it is their linear form, and no bracket stands in the head of a condition. The
comparison is of kinds, and of the values of texts and variables. -/
theorem readStatements_eq_ok_iff (ts : List Token) (S : List Statement) :
    (readStatements ts).1 = .ok S ↔
      Genuine S ∧ essence ts = linearizeAll S ∧ HeadersBare ts := by
  constructor
  · intro h
    exact ⟨genuine_of_readStatements h, essence_of_readStatements h,
      headersBare_of_advance (readStatements_eq_ok.mp h)⟩
  · rintro ⟨hS, hts, hbare⟩
    exact readStatements_of_essence hS hts hbare

end Scaffold.Template
