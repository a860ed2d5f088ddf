import Mathlib.Data.List.Infix
import Mathlib.Tactic.Lemma
import Scaffold.Proofs.Template.Descent

/-!
# Brackets outside of the heads of conditions

A bracket says nothing to the reader, except that no condition goes on behind it. So it can be put in
anywhere but in the head of a condition, also into tokens that are refused.

* `EndsInHeader`: some tokens end inside of the head of a condition. For tokens that are taken, this
  is what the machine knows of them when it expects a condition (`endsInHeader_iff_of_advance`).
* `read_insert_bracket`: one more bracket outside of the heads leaves the outcome as it is.
-/

namespace Scaffold.Template

variable {ts us front back : List Token} {t b : Token} {p q : Progress} {e : SyntaxError}

/-! ## Heads of conditions -/

/-- Some tokens end with an `if`, or with an `if` and a `!`. -/
def EndsInHeader (ts : List Token) : Prop :=
  [Token.Kind.ifWord] <:+ ts.map Token.kind ∨ [Token.Kind.ifWord, .bang] <:+ ts.map Token.kind

instance (ts : List Token) : Decidable (EndsInHeader ts) :=
  inferInstanceAs (Decidable (_ ∨ _))

/-- Where a condition is expected, the tokens before end with what there is of its head. -/
lemma headerKinds_suffix_of_advance (h : advance p ts = .ok q) :
    q.expecting.headerKinds <:+ p.expecting.headerKinds ++ ts.map Token.kind := by
  induction ts generalizing p with
  | nil =>
      obtain rfl : p = q := Except.ok.inj h
      simp
  | cons t ts ih =>
      obtain ⟨p', hstep, hrest⟩ := advance_cons_eq_ok.mp h
      obtain ⟨before, hbefore⟩ := (accepts_of_step hstep).headerKinds_suffix
      refine (ih hrest).trans ⟨before, ?_⟩
      rw [← List.append_assoc, hbefore, List.append_assoc, List.map_cons, List.singleton_append]

/-- The last of the tokens that are taken are taken from some progress on. -/
lemma exists_advance_of_suffix {ks : List Token.Kind} (h : advance p ts = .ok q)
    (hks : ks <:+ ts.map Token.kind) :
    ∃ p₁ us, us.map Token.kind = ks ∧ advance p₁ us = .ok q := by
  obtain ⟨before, heq⟩ := hks
  obtain ⟨ts₁, us, rfl, -, hus⟩ := List.map_eq_append_iff.mp heq.symm
  rw [advance_append] at h
  cases hp : advance p ts₁ with
  | error e =>
      rw [hp] at h
      cases h
  | ok p₁ =>
      rw [hp] at h
      exact ⟨p₁, us, hus, h⟩

/-- Tokens that are all taken end inside of the head of a condition exactly when a condition is
expected then. -/
lemma endsInHeader_iff_of_advance (h : advance {} ts = .ok q) :
    EndsInHeader ts ↔ q.expecting ≠ .statement := by
  constructor
  · rintro (hsuffix | hsuffix)
    · obtain ⟨p₁, us, hus, hread⟩ := exists_advance_of_suffix h hsuffix
      obtain ⟨i, us, rfl, hi, hus⟩ := List.map_eq_cons_iff.mp hus
      obtain rfl := List.map_eq_nil_iff.mp hus
      obtain ⟨block, os, hhead⟩ := advance_ifWord hi hread
      obtain rfl := Except.ok.inj hhead
      simp
    · obtain ⟨p₁, us, hus, hread⟩ := exists_advance_of_suffix h hsuffix
      obtain ⟨i, us, rfl, hi, hus⟩ := List.map_eq_cons_iff.mp hus
      obtain ⟨n, us, rfl, hn, hus⟩ := List.map_eq_cons_iff.mp hus
      obtain rfl := List.map_eq_nil_iff.mp hus
      obtain ⟨block, os, hhead⟩ := advance_ifWord hi hread
      obtain ⟨p₂, hstep, hbehind⟩ := advance_cons_eq_ok.mp hhead
      obtain rfl := Except.ok.inj hbehind
      cases accepts_of_step hstep with
      | bang _ => simp
      | conditionName hk => simp [hn] at hk
  · intro hq
    have hsuffix := headerKinds_suffix_of_advance h
    cases he : q.expecting with
    | statement => exact absurd he hq
    | condition negated =>
        rw [he] at hsuffix
        cases negated with
        | false => exact .inl hsuffix
        | true => exact .inr hsuffix

/-! ## One more bracket -/

/-- Where the first tokens are not all taken, the outcome does not depend on those that follow. -/
lemma readFrom_append_of_error (h : advance p ts = .error e) (us : List Token) :
    (readFrom p (ts ++ us)).1 = .error e := by
  rw [readFrom_fst, advance_append, h]
  rfl

/-- A bracket outside of the heads of conditions makes no difference to the machine. -/
lemma readStatements_insert_bracket (hb : b.isBracket = true) (hfront : ¬ EndsInHeader front)
    (back : List Token) :
    (readStatements (front ++ b :: back)).1 = (readStatements (front ++ back)).1 := by
  rw [readStatements, readStatements]
  cases h : advance {} front with
  | error e => rw [readFrom_append_of_error h, readFrom_append_of_error h]
  | ok p =>
      rw [readFrom_append_of_advance h, readFrom_append_of_advance h]
      obtain ⟨block, os, expecting⟩ := p
      obtain rfl : expecting = .statement := by
        simpa using (endsInHeader_iff_of_advance h).not.mp hfront
      rw [readFrom, step_of_accepts (.bracket hb)]

/-- **A bracket means nothing outside of the heads of conditions.** A bracket of either kind may be put
in at any place that is not directly behind an `if`, nor directly behind a `!` that follows an `if`:
the outcome of a fresh reader stays the same, be it statements or a refusal with its wording and its
token, and so does that of the machine. -/
theorem read_insert_bracket (ts : List Token) (k : Nat) (b : Token) (hb : b.isBracket = true)
    (hk : ¬ EndsInHeader (ts.take k)) :
    (⟨ts.take k ++ b :: ts.drop k, 0⟩ : Reader).read.1 = (⟨ts, 0⟩ : Reader).read.1 ∧
      (readStatements (ts.take k ++ b :: ts.drop k)).1 = (readStatements ts).1 := by
  have hmachine := readStatements_insert_bracket hb hk (ts.drop k)
  rw [List.take_append_drop] at hmachine
  refine ⟨?_, hmachine⟩
  rw [Reader.read_fresh, Reader.read_fresh, hmachine]

/-- A negated condition with an `else` clause that begins again. -/
def twiceElseTokens : List Token :=
  [{ kind := .ifWord }, .bang, .ofName "x", { kind := .elseWord }, { kind := .elseWord }]

/-- Behind the variable a bracket changes nothing. Behind the `!` it is what stands in place of the
variable. -/
theorem read_insert_bracket_twiceElse :
    (⟨[{ kind := .ifWord }, .bang, .ofName "x", .closeBracket, { kind := .elseWord },
        { kind := .elseWord }], 0⟩ : Reader).read.1 =
      .error (.unexpected { kind := .elseWord }) ∧
    (⟨[{ kind := .ifWord }, .bang, .openBracket, .ofName "x", { kind := .elseWord },
        { kind := .elseWord }], 0⟩ : Reader).read.1 =
      .error (.missingCondition (some .openBracket)) := by
  have hread : (⟨twiceElseTokens, 0⟩ : Reader).read.1 =
      .error (.unexpected { kind := .elseWord }) := by
    rw [Reader.read_fresh]
    rfl
  have hinsert := read_insert_bracket twiceElseTokens 3 .closeBracket rfl (by decide)
  refine ⟨hinsert.1.trans hread, ?_⟩
  rw [Reader.read_fresh]
  rfl

end Scaffold.Template
