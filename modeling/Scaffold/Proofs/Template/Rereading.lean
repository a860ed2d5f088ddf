import Mathlib.Tactic.Lemma
import Scaffold.Proofs.Template.Viability

/-!
# Reading again and again

A reader may be called again, whatever came of the last call. It goes on from where its cursor stands
and has forgotten what was open there. After some calls nothing changes any more: the tokens are used
up, or the reader stands at a token that is refused for ever.

* `readerOf`, `outcomeOf`, `passedIn`: the reader of some tokens before a call, what the call answers,
  and the tokens that it passes.
* `readStatements_again`: a token that is refused, but not for a missing condition, is refused again
  for the same reason.
* `Settles`: what is known of all calls; `settles`: it holds of all tokens.
-/

namespace Scaffold.Template

variable {ts us rest : List Token} {S : List Statement} {t : Token} {p : Progress} {e : SyntaxError}
  {m n : Nat}

/-! ## One call after another, told by the machine -/

/-- A reading that succeeds has used up the tokens. -/
lemma rest_of_readFrom_ok (h : readFrom p us = (.ok S, rest)) : rest = [] := by
  induction us generalizing p with
  | nil => exact (Prod.mk.inj h).2.symm
  | cons t us ih =>
      rw [readFrom] at h
      cases hstep : p.step t with
      | error e =>
          rw [hstep] at h
          cases h
      | ok q =>
          rw [hstep] at h
          exact ih h

/-- An unclosed conditional is found at the end of the tokens only. -/
lemma rest_of_unclosed (h : readStatements us = (.error .unclosed, rest)) : rest = [] := by
  obtain ⟨front, q, -, -, -, hrefuse⟩ := exists_advance_of_readFrom h
  cases rest with
  | nil => rfl
  | cons t more =>
      have he := error_of_step (hrefuse t more rfl)
      split at he
      · cases he
      · split at he <;> cases he

/-- A missing condition is found behind an `if`. -/
lemma exists_ifWord_of_missingCondition {found : Option Token}
    (h : readStatements us = (.error (.missingCondition found), rest)) :
    ∃ front, us = front ++ rest ∧ ∃ t ∈ front, t.kind = .ifWord := by
  obtain ⟨front, q, hus, hfront, hfinish, hrefuse⟩ := exists_advance_of_readFrom h
  refine ⟨front, hus, ?_⟩
  have hexpecting : q.expecting ≠ .statement := by
    intro hq
    cases rest with
    | nil =>
        have he := error_of_finish (hfinish rfl)
        rw [if_pos hq] at he
        cases he
    | cons t more =>
        have he := error_of_step (hrefuse t more rfl)
        rw [if_pos hq] at he
        split at he <;> cases he
  have hmem : Token.Kind.ifWord ∈ front.map Token.kind := by
    rcases (endsInHeader_iff_of_advance hfront).mpr hexpecting with hsuffix | hsuffix
    · exact hsuffix.subset (by simp)
    · exact hsuffix.subset (by simp)
  simpa using hmem

/-- A token that is refused in some progress, but not for a missing condition, is refused at the start
for the same reason. -/
lemma step_start_of_step (h : p.step t = .error e) (he : ∀ found, e ≠ .missingCondition found) :
    Progress.step {} t = .error e := by
  have hreason := error_of_step h
  obtain ⟨block, os, expecting⟩ := p
  obtain ⟨kind, value, position⟩ := t
  cases expecting with
  | statement =>
      cases kind with
      | openBracket | closeBracket | text | «variable» | ifWord => cases h
      | elseWord | endifWord | invalid | bang => rw [hreason]; rfl
  | condition negated =>
      by_cases hk : kind = .invalid
      · subst hk
        rw [hreason]
        rfl
      · exact absurd (by simpa [hk] using hreason) (he _)

/-- What is refused, but not for a missing condition or for the end, is refused again. -/
lemma readStatements_again (h : readStatements us = (.error e, rest))
    (he : ∀ found, e ≠ .missingCondition found) (hclosed : e ≠ .unclosed) :
    readStatements rest = (.error e, rest) := by
  obtain ⟨front, q, -, -, hfinish, hrefuse⟩ := exists_advance_of_readFrom h
  cases rest with
  | nil =>
      have hreason := error_of_finish (hfinish rfl)
      split at hreason
      · exact absurd hreason hclosed
      · exact absurd hreason (he none)
  | cons t more =>
      rw [readStatements, readFrom, step_start_of_step (hrefuse t more rfl) he]

/-! ## Calls -/

/-- The reader of some tokens before a call; the calls are counted from zero. -/
def readerOf (ts : List Token) (n : Nat) : Reader :=
  (⟨ts, 0⟩ : Reader).after n

/-- What a call answers. -/
def outcomeOf (ts : List Token) (n : Nat) : Except Refusal (List Statement) :=
  (readerOf ts n).read.1

/-- The tokens that a call passes. -/
def passedIn (ts : List Token) (n : Nat) : List Token :=
  (ts.take (readerOf ts (n + 1)).cursor).drop (readerOf ts n).cursor

/-- A condition is missing in what a call answers. -/
def missesCondition : Except Refusal (List Statement) → Bool
  | .error (.missingCondition _) => true
  | _ => false

/-- One more reading goes on from the last. -/
lemma readerOf_succ (ts : List Token) (n : Nat) :
    readerOf ts (n + 1) = (readerOf ts n).read.2 :=
  rfl

/-- No call touches the tokens, and none moves the cursor behind them. -/
lemma readerOf_valid (ts : List Token) (n : Nat) :
    (readerOf ts n).tokens = ts ∧ (readerOf ts n).cursor ≤ (readerOf ts n).tokens.length := by
  induction n with
  | zero => exact ⟨rfl, Nat.zero_le _⟩
  | succ n ih =>
      rw [readerOf_succ, Reader.read_eq ih.2]
      exact ⟨ih.1, Nat.sub_le _ _⟩

/-- What is left are the tokens from the cursor on. -/
lemma rest_readerOf (ts : List Token) (n : Nat) :
    (readerOf ts n).rest = ts.drop (readerOf ts n).cursor := by
  rw [Reader.rest, (readerOf_valid ts n).1]

/-- What a call answers and leaves, told by the machine. -/
lemma outcomeOf_eq (ts : List Token) (n : Nat) :
    outcomeOf ts n =
        (readStatements (readerOf ts n).rest).1.mapError SyntaxError.refusal ∧
      (readerOf ts (n + 1)).rest = (readStatements (readerOf ts n).rest).2 := by
  have hvalid := (readerOf_valid ts n).2
  exact ⟨congrArg Prod.fst (Reader.read_eq hvalid), Reader.rest_read hvalid⟩

/-- The cursor after a call stands as far behind the one before it as that of a fresh reader with the
tokens that were left. -/
lemma cursor_readerOf_succ (ts : List Token) (n : Nat) :
    (readerOf ts (n + 1)).cursor =
      (readerOf ts n).cursor + (⟨(readerOf ts n).rest, 0⟩ : Reader).read.2.cursor := by
  obtain ⟨htokens, hcursor⟩ := readerOf_valid ts n
  have hle : (readStatements (readerOf ts n).rest).2.length ≤ (readerOf ts n).rest.length :=
    (readFrom_suffix {} (readerOf ts n).rest).length_le
  have hlength : (readerOf ts n).rest.length =
      (readerOf ts n).tokens.length - (readerOf ts n).cursor := List.length_drop
  rw [readerOf_succ, Reader.read_eq hcursor, Reader.read_fresh]
  dsimp only
  omega

/-- What is left before a call is what the call passes, and what is left then. -/
lemma rest_eq_passedIn_append (ts : List Token) (n : Nat) :
    (readerOf ts n).rest = passedIn ts n ++ (readerOf ts (n + 1)).rest := by
  have hle := cursor_readerOf_succ ts n
  obtain ⟨htokens, hvalid⟩ := readerOf_valid ts (n + 1)
  rw [htokens] at hvalid
  rw [rest_readerOf, rest_readerOf, passedIn]
  generalize (readerOf ts (n + 1)).cursor = c at hle hvalid ⊢
  calc ts.drop (readerOf ts n).cursor
      = (ts.take c ++ ts.drop c).drop (readerOf ts n).cursor := by rw [List.take_append_drop]
    _ = (ts.take c).drop (readerOf ts n).cursor ++ ts.drop c := by
        refine List.drop_append_of_le_length ?_
        rw [List.length_take]
        omega

/-- A call that misses a condition has passed an `if`. -/
lemma exists_ifWord_of_missesCondition (h : missesCondition (outcomeOf ts n) = true) :
    ∃ t ∈ passedIn ts n, t.kind = .ifWord := by
  obtain ⟨hanswer, hrest⟩ := outcomeOf_eq ts n
  generalize hread : readStatements (readerOf ts n).rest = x at hanswer hrest
  obtain ⟨x, rest⟩ := x
  obtain ⟨found, rfl⟩ : ∃ found, x = .error (.missingCondition found) := by
    rw [hanswer] at h
    rcases x with (_ | _ | found | _) | S
    case error.missingCondition => exact ⟨found, rfl⟩
    all_goals cases h
  obtain ⟨front, hfront, hif⟩ := exists_ifWord_of_missingCondition hread
  have hpassed : passedIn ts n = front := by
    rw [rest_eq_passedIn_append, hrest] at hfront
    exact List.append_cancel_right hfront
  rwa [hpassed]

/-- Of the `if` tokens, each call that misses a condition uses up one. -/
lemma countP_missesCondition (ts : List Token) (n : Nat) :
    (List.range n).countP (fun i => missesCondition (outcomeOf ts i)) +
      (readerOf ts n).rest.countP (·.kind = .ifWord) ≤ ts.countP (·.kind = .ifWord) := by
  induction n with
  | zero => simp [readerOf, Reader.after, Reader.rest]
  | succ n ih =>
      rw [rest_eq_passedIn_append, List.countP_append] at ih
      rw [List.range_succ, List.countP_append, List.countP_singleton]
      split
      · rename_i h
        have hpos : 0 < (passedIn ts n).countP (·.kind = .ifWord) := by
          simpa [List.countP_pos_iff] using exists_ifWord_of_missesCondition h
        omega
      · omega

/-! ## Nothing changes any more -/

/-- Where a call leaves all the tokens that it was given, every later call answers the same. -/
lemma outcomeOf_of_fixed {x : Except SyntaxError (List Statement)}
    (h : readStatements (readerOf ts m).rest = (x, (readerOf ts m).rest)) (hmn : m ≤ n) :
    outcomeOf ts n = x.mapError SyntaxError.refusal := by
  have hrest : (readerOf ts n).rest = (readerOf ts m).rest := by
    induction n, hmn using Nat.le_induction with
    | base => rfl
    | succ n _ ih => rw [(outcomeOf_eq ts n).2, ih, h]
  rw [(outcomeOf_eq ts n).1, hrest, h]

/-- After a call that uses up the tokens, every later one answers with no statements. -/
lemma outcomeOf_of_rest_nil (h : (readerOf ts m).rest = []) (hmn : m ≤ n) :
    outcomeOf ts n = .ok [] :=
  outcomeOf_of_fixed (x := .ok []) (by rw [h]; rfl) hmn

/-- What a call answers is what the machine answers, in the words of the procedures. -/
lemma exists_of_outcomeOf {r : Refusal} (h : outcomeOf ts m = .error r) :
    ∃ e, r = e.refusal ∧
      readStatements (readerOf ts m).rest = (.error e, (readerOf ts (m + 1)).rest) := by
  obtain ⟨hanswer, hrest⟩ := outcomeOf_eq ts m
  rw [h] at hanswer
  generalize readStatements (readerOf ts m).rest = x at hanswer hrest ⊢
  obtain ⟨x | S, rest⟩ := x
  · exact ⟨x, Except.error.inj hanswer, Prod.ext rfl hrest.symm⟩
  · cases hanswer

/-- A call that answers with statements, or misses the end of a conditional, uses up the tokens. -/
lemma rest_nil_of_finished (h : (∃ S, outcomeOf ts m = .ok S) ∨
    ∃ found, outcomeOf ts m = .error (.missingEnd found)) : (readerOf ts (m + 1)).rest = [] := by
  rcases h with ⟨S, hS⟩ | ⟨found, hfound⟩
  · obtain ⟨hanswer, hrest⟩ := outcomeOf_eq ts m
    rw [hS] at hanswer
    generalize hread : readStatements (readerOf ts m).rest = x at hanswer hrest
    obtain ⟨e | S', rest⟩ := x
    · cases hanswer
    · rw [hrest]
      exact rest_of_readFrom_ok hread
  · obtain ⟨e, he, hread⟩ := exists_of_outcomeOf hfound
    cases e with
    | unclosed => exact rest_of_unclosed hread
    | invalidCharacter _ _ | unexpected _ | missingCondition _ => cases he

/-- The outcomes in a row are those that the machine gives, each from where the last one stopped. -/
lemma readRepeatedly_eq (ts : List Token) (m n : Nat) :
    (readRepeatedly n (readerOf ts m).rest).map (·.mapError SyntaxError.refusal) =
      (List.range n).map fun i => outcomeOf ts (m + i) := by
  induction n generalizing m with
  | zero => rfl
  | succ n ih =>
      obtain ⟨hanswer, hrest⟩ := outcomeOf_eq ts m
      rw [readRepeatedly, List.range_succ_eq_map, List.map_cons, List.map_cons, ← hanswer, ← hrest,
        ih, List.map_map]
      simp [Function.comp_def, Nat.add_assoc, Nat.add_comm 1]

/-! ## All calls -/

/-- What is known of all calls of one reader. -/
structure Settles (ts : List Token) : Prop where
  /-- The cursor never moves back. -/
  cursor_mono : ∀ m n, m ≤ n → (readerOf ts m).cursor ≤ (readerOf ts n).cursor
  /-- Each call answers what a fresh reader answers on the tokens from the cursor on, and moves the
  cursor as far. -/
  fresh : ∀ n, outcomeOf ts n = outcomeOf (ts.drop (readerOf ts n).cursor) 0 ∧
    (readerOf ts (n + 1)).cursor =
      (readerOf ts n).cursor + (readerOf (ts.drop (readerOf ts n).cursor) 1).cursor
  /-- A call that misses a condition has passed an `if`. -/
  passes_ifWord : ∀ n found, outcomeOf ts n = .error (.missingCondition found) →
    ∃ t ∈ passedIn ts n, t.kind = .ifWord
  /-- So there are at most as many such calls as there are `if` tokens. -/
  countP_le : ∀ n, (List.range n).countP (fun i => missesCondition (outcomeOf ts i)) ≤
    ts.countP (·.kind = .ifWord)
  /-- After a call that answers with statements, or misses the end of a conditional, every call
  answers with no statements. -/
  finished : ∀ m n, m < n →
    ((∃ S, outcomeOf ts m = .ok S) ∨ ∃ found, outcomeOf ts m = .error (.missingEnd found)) →
    outcomeOf ts n = .ok []
  /-- After a call that finds an invalid character or an unexpected token, every call does so. -/
  stuck : ∀ m n r, m < n → outcomeOf ts m = .error r →
    ((∃ value position, r = .invalidCharacter value position) ∨ ∃ t, r = .unexpected t) →
    outcomeOf ts n = .error r
  /-- The machine answers the same, when it is started again and again. -/
  repeated : ∀ n, (readRepeatedly n ts).map (·.mapError SyntaxError.refusal) =
    (List.range n).map (outcomeOf ts)

/-- **Repeated calls settle.** -/
theorem settles (ts : List Token) : Settles ts where
  cursor_mono m n hmn := by
    induction n, hmn using Nat.le_induction with
    | base => exact le_rfl
    | succ n _ ih =>
        rw [cursor_readerOf_succ]
        omega
  fresh n := by
    refine ⟨?_, ?_⟩
    · rw [(outcomeOf_eq ts n).1, (outcomeOf_eq _ 0).1, rest_readerOf]
      rfl
    · rw [cursor_readerOf_succ, rest_readerOf]
      rfl
  passes_ifWord n found h := exists_ifWord_of_missesCondition (by rw [h]; rfl)
  countP_le n := (Nat.le_add_right _ _).trans (countP_missesCondition ts n)
  finished m n hmn h := outcomeOf_of_rest_nil (rest_nil_of_finished h) hmn
  stuck m n r hmn h hr := by
    obtain ⟨e, rfl, hread⟩ := exists_of_outcomeOf h
    refine outcomeOf_of_fixed (m := m + 1) (readStatements_again hread ?_ ?_) hmn
    · rintro found rfl
      rcases hr with ⟨value, position, hr⟩ | ⟨t, hr⟩ <;> cases hr
    · rintro rfl
      rcases hr with ⟨value, position, hr⟩ | ⟨t, hr⟩ <;> cases hr
  repeated n := by
    have h := readRepeatedly_eq ts 0 n
    simp only [Nat.zero_add] at h
    exact h

/-- An `if` that misses its variable, and a conditional with a stray `!` in it. -/
def strandedTokens : List Token :=
  [{ kind := .ifWord }, .text "a", { kind := .ifWord }, .ofName "x", .bang,
    { kind := .endifWord }]

/-- The first reading misses the variable of the first `if`, and every later one is stuck at the `!`. -/
theorem settles_stranded :
    outcomeOf strandedTokens 0 = .error (.missingCondition (some (.text "a"))) ∧
      ∀ n, 1 ≤ n → outcomeOf strandedTokens n = .error (.unexpected .bang) := by
  have hcalls := (settles strandedTokens).repeated 2
  have hmachine : readRepeatedly 2 strandedTokens =
      [.error (.missingCondition (some (.text "a"))), .error (.unexpected .bang)] := rfl
  rw [hmachine] at hcalls
  obtain ⟨hfirst, hsecond⟩ := List.cons.inj hcalls
  obtain ⟨hsecond, -⟩ := List.cons.inj hsecond
  refine ⟨hfirst.symm, fun n hn => ?_⟩
  rcases hn.eq_or_lt with rfl | hlt
  · exact hsecond.symm
  · exact (settles strandedTokens).stuck 1 n _ hlt hsecond.symm (.inr ⟨_, rfl⟩)

end Scaffold.Template
