import Mathlib.Tactic.Lemma
import Scaffold.Proofs.Template.Brackets

/-!
# Errors come up at the earliest token

A list of tokens is refused at the first token behind which nothing could help any more: what comes
before it can be completed, and no list that goes on with it is accepted.

* `Progress.closing`: tokens that complete what has been read (`exists_advance_closing`).
* `refusalOf`, `refusalAtEnd`: the refusal of a token, or of the end, by what stands before it.
* `read_refused`: where a reading is given up, and why.
-/

namespace Scaffold.Template

variable {ts us front rest : List Token} {t : Token} {p q : Progress} {e : SyntaxError}

/-! ## What has been read can be completed -/

/-- Tokens that complete what has been read: the variable of an unfinished condition, and the ends of
the open conditionals. -/
def Progress.closing (p : Progress) : List Token :=
  match p.expecting with
  | .statement => List.replicate p.openConditionals.length { kind := .endifWord }
  | .condition _ => .ofName "" ::
      List.replicate (p.openConditionals.length + 1) { kind := .endifWord }

/-- As many ends as there are open conditionals close them. -/
lemma exists_advance_ends (block : List Statement) (os : List OpenConditional) :
    ∃ S, advance ⟨block, os, .statement⟩ (List.replicate os.length { kind := .endifWord }) =
      .ok ⟨S, [], .statement⟩ := by
  induction os generalizing block with
  | nil => exact ⟨block, rfl⟩
  | cons o os ih =>
      obtain ⟨name, negated, before, thenBranch⟩ := o
      rw [List.length_cons, List.replicate_succ]
      cases thenBranch with
      | none =>
          obtain ⟨S, hS⟩ := ih (before ++ [.conditional name negated block none])
          exact ⟨S, advance_cons_eq_ok.mpr ⟨_, step_of_accepts (.endifWord rfl), hS⟩⟩
      | some T =>
          obtain ⟨S, hS⟩ := ih (before ++ [.conditional name negated T (some block)])
          exact ⟨S, advance_cons_eq_ok.mpr ⟨_, step_of_accepts (.endifWordElse rfl), hS⟩⟩

/-- From any progress, the closing tokens lead to where nothing is open. -/
lemma exists_advance_closing (p : Progress) :
    ∃ S, advance p p.closing = .ok ⟨S, [], .statement⟩ := by
  obtain ⟨block, os, expecting⟩ := p
  cases expecting with
  | statement => exact exists_advance_ends block os
  | condition negated =>
      obtain ⟨S, hS⟩ := exists_advance_ends [] (⟨"", negated, block, none⟩ :: os)
      exact ⟨S, advance_cons_eq_ok.mpr ⟨_, step_of_accepts (.conditionName rfl), hS⟩⟩

/-- Tokens that are all taken are the beginning of a list that is accepted. -/
lemma exists_readStatements_append (h : advance {} ts = .ok p) :
    ∃ more S, (readStatements (ts ++ more)).1 = .ok S := by
  obtain ⟨S, hS⟩ := exists_advance_closing p
  exact ⟨p.closing, S, readStatements_eq_ok.mpr (advance_append_of_eq h hS)⟩

/-! ## Where a reading is given up -/

/-- A reading that fails has taken what comes before the rest, and then fails at a token or at the
end. -/
lemma exists_advance_of_readFrom (h : readFrom p ts = (.error e, rest)) :
    ∃ front q, ts = front ++ rest ∧ advance p front = .ok q ∧
      (rest = [] → q.finish = .error e) ∧ ∀ t more, rest = t :: more → q.step t = .error e := by
  induction ts generalizing p with
  | nil =>
      obtain ⟨hfinish, rfl⟩ := Prod.mk.inj h
      exact ⟨[], p, rfl, rfl, fun _ => hfinish, by simp⟩
  | cons t ts ih =>
      rw [readFrom] at h
      cases hstep : p.step t with
      | error e' =>
          rw [hstep] at h
          obtain ⟨he, rfl⟩ := Prod.mk.inj h
          obtain rfl := Except.error.inj he
          refine ⟨[], p, rfl, rfl, by simp, ?_⟩
          intro u more hu
          obtain ⟨rfl, -⟩ := List.cons.inj hu
          exact hstep
      | ok p' =>
          rw [hstep] at h
          obtain ⟨front, q, hts, hadvance, hfinish, hrefuse⟩ := ih h
          exact ⟨t :: front, q, by rw [hts, List.cons_append],
            advance_cons_eq_ok.mpr ⟨p', hstep, hadvance⟩, hfinish, hrefuse⟩

/-- A token that is taken where something can be done with it, and refused elsewhere. -/
lemma eq_of_elim_eq_error {o : Option Progress}
    (h : o.elim (Except.error (SyntaxError.unexpected t)) .ok = .error e) : e = .unexpected t := by
  cases o with
  | none => exact (Except.error.inj h).symm
  | some q => cases h

/-- The error of a token that is not taken is told by the token and by what is expected. -/
lemma error_of_step (h : p.step t = .error e) :
    e = if t.kind = .invalid then .invalidCharacter t.value t.position
      else if p.expecting = .statement then .unexpected t
      else .missingCondition (some t) := by
  obtain ⟨block, os, expecting⟩ := p
  obtain ⟨kind, value, position⟩ := t
  cases expecting with
  | statement =>
      cases kind with
      | openBracket | closeBracket | text | «variable» | ifWord => cases h
      | elseWord | endifWord => simpa using eq_of_elim_eq_error h
      | invalid | bang => simpa using (Except.error.inj h).symm
  | condition negated =>
      cases kind with
      | «variable» => cases negated <;> cases h
      | bang =>
          cases negated with
          | false => cases h
          | true => simpa using (Except.error.inj h).symm
      | openBracket | closeBracket | text | ifWord | elseWord | endifWord | invalid =>
          cases negated <;> simpa using (Except.error.inj h).symm

/-- The error at the end is told by what is expected. -/
lemma error_of_finish (h : p.finish = .error e) :
    e = if p.expecting = .statement then .unclosed else .missingCondition none := by
  obtain ⟨block, os, expecting⟩ := p
  cases expecting with
  | statement =>
      cases os with
      | nil => cases h
      | cons o os => simpa using (Except.error.inj h).symm
  | condition negated => simpa using (Except.error.inj h).symm

/-- The refusal of a token behind others. -/
def refusalOf (front : List Token) (t : Token) : Refusal :=
  if t.kind = .invalid then .invalidCharacter t.value t.position
  else if EndsInHeader front then .missingCondition (some t)
  else .unexpected t

/-- The refusal at the end of some tokens. -/
def refusalAtEnd (ts : List Token) : Refusal :=
  if EndsInHeader ts then .missingCondition none else .missingEnd none

/-- The refusal of a token is told from the tokens before it and the token. -/
lemma refusal_of_step (hfront : advance {} front = .ok p) (h : p.step t = .error e) :
    e.refusal = refusalOf front t := by
  rw [error_of_step h, refusalOf]
  simp only [endsInHeader_iff_of_advance hfront]
  split
  · rfl
  · by_cases hp : p.expecting = .statement <;> simp [hp, SyntaxError.refusal]

/-- The refusal at the end is told from the tokens. -/
lemma refusal_of_finish (hts : advance {} ts = .ok p) (h : p.finish = .error e) :
    e.refusal = refusalAtEnd ts := by
  rw [error_of_finish h, refusalAtEnd]
  simp only [endsInHeader_iff_of_advance hts]
  by_cases hp : p.expecting = .statement <;> simp [hp, SyntaxError.refusal]

/-- The refusal of a token that is no invalid character carries that token. -/
lemma token?_refusalOf (front : List Token) (h : t.kind ≠ .invalid) :
    (refusalOf front t).token? = some t := by
  rw [refusalOf, if_neg h]
  split <;> rfl

/-- At the end there is no token to report. -/
lemma refusalAtEnd_spec (ts : List Token) :
    (refusalAtEnd ts).token? = none ∧
      (refusalAtEnd ts).message ∈ [complaint ++ "expected variable after if, found: end of input",
        complaint ++ "expected endif, found: end of input"] := by
  rw [refusalAtEnd]
  split
  · exact ⟨rfl, by simp [Refusal.message, describe?, String.append_assoc]⟩
  · exact ⟨rfl, by simp [Refusal.message, describe?, String.append_assoc]⟩

/-- Where a token is refused, every list that begins alike is given up. -/
lemma read_of_take_eq (hfront : advance {} front = .ok p) (hrefuse : p.step t = .error e)
    (hus : us.take (front.length + 1) = front ++ [t]) :
    (⟨us, 0⟩ : Reader).read = (.error e.refusal, ⟨us, front.length⟩) := by
  obtain ⟨more, rfl⟩ : ∃ more, us = front ++ t :: more := by
    refine ⟨us.drop (front.length + 1), ?_⟩
    rw [← List.singleton_append, ← List.append_assoc, ← hus, List.take_append_drop]
  have hread : readStatements (front ++ t :: more) = (.error e, t :: more) := by
    rw [readStatements, readFrom_append_of_advance hfront, readFrom, hrefuse]
  rw [Reader.read_fresh, hread]
  simp [Except.mapError]

/-- A reading that is given up, told by the machine. -/
lemma readStatements_of_read {r : Refusal} {d : Reader}
    (h : (⟨ts, 0⟩ : Reader).read = (.error r, d)) :
    ∃ front rest e q, ts = front ++ rest ∧ advance {} front = .ok q ∧ r = e.refusal ∧
      d = ⟨ts, front.length⟩ ∧ readStatements ts = (.error e, rest) ∧
      (rest = [] → q.finish = .error e) ∧ ∀ t more, rest = t :: more → q.step t = .error e := by
  rw [Reader.read_fresh] at h
  obtain ⟨hanswer, rfl⟩ := Prod.mk.inj h
  generalize hread : readStatements ts = x at hanswer ⊢
  obtain ⟨x, rest⟩ := x
  cases x with
  | ok S => cases hanswer
  | error e =>
      obtain rfl := Except.error.inj hanswer
      obtain ⟨front, q, hts, hfront, hfinish, hrefuse⟩ := exists_advance_of_readFrom hread
      refine ⟨front, rest, e, q, hts, hfront, rfl, ?_, rfl, hfinish, hrefuse⟩
      simp [hts]

/-- **A reading is given up at the earliest token.** Where a fresh reader gives up, the tokens that it
has passed can be completed to a list that is accepted. If it stands at a token, every list that
begins with the same tokens up to this one is given up at the same place and for the same reason: an
invalid character is reported with its position, any other token as the one that was found in the
place of a condition, where the head of a condition is unfinished, and as an unexpected token
elsewhere. If it stands at the end, a condition or the end of a conditional is missing, and there is
no token to report. Nothing else comes up; the machine that keeps the open conditionals on a stack
fails in the same way, with the same tokens left. -/
theorem read_refused_earliest (ts : List Token) (r : Refusal) (d : Reader)
    (h : (⟨ts, 0⟩ : Reader).read = (.error r, d)) :
    (∃ more S d', (⟨ts.take d.cursor ++ more, 0⟩ : Reader).read = (.ok S, d')) ∧
    (∀ t, ts[d.cursor]? = some t →
      (∀ us, us.take (d.cursor + 1) = ts.take (d.cursor + 1) →
        (⟨us, 0⟩ : Reader).read = (.error r, ⟨us, d.cursor⟩)) ∧
      r = refusalOf (ts.take d.cursor) t ∧ (t.kind ≠ .invalid → r.token? = some t)) ∧
    (ts[d.cursor]? = none →
      d.cursor = ts.length ∧ r = refusalAtEnd ts ∧ r.token? = none ∧
      r.message ∈ [complaint ++ "expected variable after if, found: end of input",
        complaint ++ "expected endif, found: end of input"]) ∧
    (r ≠ .missingStatement ∧ ∀ t, r ≠ .missingEnd (some t)) ∧
    ∃ e, r = e.refusal ∧ readStatements ts = (.error e, ts.drop d.cursor) := by
  obtain ⟨front, rest, e, q, rfl, hfront, rfl, rfl, hread, hfinish, hrefuse⟩ :=
    readStatements_of_read h
  dsimp only
  rw [List.take_left]
  refine ⟨?_, ?_, ?_, ?_, e, rfl, by rw [hread, List.drop_left]⟩
  · obtain ⟨more, S, hS⟩ := exists_readStatements_append hfront
    exact ⟨more, S, _, by rw [Reader.read_fresh, hS]; rfl⟩
  · intro t ht
    obtain ⟨more, rfl⟩ : ∃ more, rest = t :: more := by
      cases rest with
      | nil => simp at ht
      | cons u more => exact ⟨more, by simpa using ht⟩
    have hstep := hrefuse t more rfl
    have hrefusal := refusal_of_step hfront hstep
    refine ⟨fun us hus => read_of_take_eq hfront hstep ?_, hrefusal, fun hk => ?_⟩
    · rw [hus, List.take_append]
      simp
    · rw [hrefusal, token?_refusalOf front hk]
  · intro hend
    obtain rfl : rest = [] := by
      cases rest with
      | nil => rfl
      | cons u more => simp at hend
    have hrefusal := refusal_of_finish hfront (hfinish rfl)
    rw [List.append_nil]
    refine ⟨rfl, hrefusal, ?_⟩
    rw [hrefusal]
    exact refusalAtEnd_spec front
  · cases e <;> simp [SyntaxError.refusal]

/-- A conditional inside of an `else` clause, which has an `else` too many. -/
def tangledTokens : List Token :=
  [{ kind := .ifWord }, .ofName "x", .text "a", { kind := .elseWord }, { kind := .ifWord }, .bang,
    .ofName "y", .closeBracket, { kind := .elseWord }, .text "b", { kind := .elseWord },
    .ofName "z"]

/-- The `else` that is too many is refused at its place. What stands before it can be completed, and what
stands behind it makes no difference. -/
theorem read_refused_earliest_tangled :
    (⟨tangledTokens, 0⟩ : Reader).read =
        (.error (.unexpected { kind := .elseWord }), ⟨tangledTokens, 10⟩) ∧
      (∃ more S d', (⟨tangledTokens.take 10 ++ more, 0⟩ : Reader).read = (.ok S, d')) ∧
      ∀ us, us.take 11 = tangledTokens.take 11 →
        (⟨us, 0⟩ : Reader).read = (.error (.unexpected { kind := .elseWord }), ⟨us, 10⟩) := by
  have hmachine : readStatements tangledTokens =
      (.error (.unexpected { kind := .elseWord }), [{ kind := .elseWord }, .ofName "z"]) := rfl
  have hread : (⟨tangledTokens, 0⟩ : Reader).read =
      (.error (.unexpected { kind := .elseWord }), ⟨tangledTokens, 10⟩) := by
    rw [Reader.read_fresh, hmachine]
    rfl
  obtain ⟨hcompleted, hrefused, -⟩ := read_refused_earliest tangledTokens _ _ hread
  exact ⟨hread, hcompleted, (hrefused _ rfl).1⟩

end Scaffold.Template
