import Scaffold.Proofs.Template.Scanning
import Scaffold.Template.Stream

/-!
# Tokens on demand are the tokens of the template

However the calls of one scanner follow each other, they deliver the tokens of the template in order.

* `Scanner.Delivers`: the tokens that a scanner delivers on its way from one place to another.
* `Scanner.delivers_call`, `Scanner.delivers_run`: what every call delivers, and calls in a row.
* `Scanner.run_nexts`: the tokens that are left are those that come one by one until there is none.
* `Scanner.Streams`: what is known of a scanner after some calls; `Scanner.streams`: it holds after
  all calls.
-/

namespace Scaffold.Template

open Text (isBlank)

namespace Scanner

variable {s s' s'' : Scanner} {t : Token} {ts us : List Token}

/-! ## From one place to another -/

/-- The tokens that a scanner delivers on its way from one place to another. The characters on the way
are as many as the cursor moves on, and no fewer than the tokens. -/
structure Delivers (s : Scanner) (ts : List Token) (s' : Scanner) : Prop where
  tokens_eq : s.tokens = ts ++ s'.tokens
  inside_eq : s'.inside = insideAfter s.inside ts
  exists_passed : ∃ passed, s.rest = passed ++ s'.rest ∧ s'.offset = s.offset + passed.length ∧
    ts.length ≤ passed.length

/-- A scanner that stays delivers nothing. -/
lemma Delivers.refl (s : Scanner) : s.Delivers [] s :=
  ⟨rfl, rfl, [], rfl, rfl, Nat.le_refl 0⟩

/-- What is delivered on the way on comes behind what has been. -/
lemma Delivers.trans (h : s.Delivers ts s') (h' : s'.Delivers us s'') :
    s.Delivers (ts ++ us) s'' := by
  obtain ⟨htokens, hinside, passed, hrest, hoffset, hlength⟩ := h
  obtain ⟨htokens', hinside', passed', hrest', hoffset', hlength'⟩ := h'
  refine ⟨by rw [htokens, htokens', List.append_assoc], ?_, passed ++ passed', ?_, ?_, ?_⟩
  · rw [hinside', hinside, insideAfter_append]
  · rw [hrest, hrest', List.append_assoc]
  · rw [hoffset', hoffset, List.length_append, Nat.add_assoc]
  · rw [List.length_append, List.length_append]
    exact Nat.add_le_add hlength hlength'

/-- From the start of a template on, no more tokens are delivered than characters are passed, and
these are counted by the cursor. -/
lemma Delivers.of_start {template : String} (h : (start template).Delivers ts s) :
    ts.length ≤ s.offset ∧ s.offset ≤ template.length ∧ s.rest = template.toList.drop s.offset := by
  obtain ⟨-, -, passed, hrest, hoffset, hlength⟩ := h
  have htemplate : template.toList = passed ++ s.rest := hrest
  have hcursor : s.offset = passed.length := hoffset.trans (Nat.zero_add _)
  rw [hcursor, ← String.length_toList, htemplate]
  exact ⟨hlength, by rw [List.length_append]; exact Nat.le_add_right _ _, List.drop_left.symm⟩

/-- One token is delivered. -/
lemma delivers_of_scans (h : Scans s t s') : s.Delivers [t] s' := by
  obtain ⟨gap, hrest, -, -, hinside, hoffset, -⟩ := h.exists_gap
  refine ⟨tokens_of_scans h, hinside, gap ++ t.lexeme, hrest, hoffset, ?_⟩
  have hshorter := next?_shorter (next?_of_scans h)
  rw [hrest, List.length_append] at hshorter
  rw [List.length_singleton]
  omega

/-- Where no token is left, none is delivered on the way to the end. -/
lemma delivers_finish (h : s.next? = none) : s.Delivers [] s.finish := by
  have hfinish : s.finish.tokens = [] := tokens_of_next?_eq_none (next?_eq_none_iff.mpr (.inl rfl))
  refine ⟨?_, rfl, s.rest, (List.append_nil _).symm, rfl, Nat.zero_le _⟩
  rw [tokens_of_next?_eq_none h, hfinish, List.append_nil]

/-! ## One token, and all of them -/

/-- A token that is there is the next one. -/
lemma advance_of_scans (h : Scans s t s') : s.advance = (some t, s') := by
  rw [advance, next?_of_scans h]

/-- A scanner that finds no token stands at the end then. -/
lemma advance_of_done (h : s.next? = none) : s.advance = (none, s.finish) := by
  rw [advance, h]
  obtain ⟨rest, inside, offset⟩ := s
  rcases next?_eq_none_iff.mp h with hrest | ⟨hinside, hblank⟩
  · obtain rfl : rest = [] := hrest
    cases inside <;> rfl
  · obtain rfl : inside = true := hinside
    have htake : rest.takeWhile isBlank = rest := List.takeWhile_eq_self_iff.mpr hblank
    have hdrop : rest.dropWhile isBlank = [] := List.dropWhile_eq_nil_iff.mpr hblank
    simp [skipBlanks, finish, htake, hdrop]

/-- What is drained, by what comes first. -/
lemma drain_eq (s : Scanner) : s.drain =
    match s.advance with
    | (none, s') => ([], s')
    | (some t, s') => (t :: s'.drain.1, s'.drain.2) := by
  rw [drain]
  split <;> rename_i hadvance <;> rw [hadvance]

/-- What is drained starts with the token that is there. -/
lemma drain_of_scans (h : Scans s t s') : s.drain = (t :: s'.drain.1, s'.drain.2) := by
  rw [drain_eq, advance_of_scans h]

/-- Where no token is left, none is drained. -/
lemma drain_of_done (h : s.next? = none) : s.drain = ([], s.finish) := by
  rw [drain_eq, advance_of_done h]

/-- The tokens that are drained are all that are left. -/
lemma drain_fst (s : Scanner) : s.drain.1 = s.tokens := by
  induction s using scanner_induction with
  | done s h => rw [drain_of_done h, tokens_of_next?_eq_none h]
  | scan s t s' h ih => rw [drain_of_scans h, tokens_of_scans h, ih]

/-- Draining delivers all that are left. -/
lemma delivers_drain (s : Scanner) : s.Delivers s.tokens s.drain.2 := by
  induction s using scanner_induction with
  | done s h =>
      rw [drain_of_done h, tokens_of_next?_eq_none h]
      exact delivers_finish h
  | scan s t s' h ih =>
      rw [drain_of_scans h, tokens_of_scans h]
      exact (delivers_of_scans h).trans ih

/-! ## One call -/

/-- The tokens that an answer delivers. -/
def Answer.delivered : Answer → List Token
  | .token t => [t]
  | .tokens ts => ts
  | .stop | .itself => []

/-- The next token is handed out if there is one. -/
lemma call_next_of_scans (h : Scans s t s') : s.call .next = (.token t, s') := by
  rw [call, advance_of_scans h]

/-- There is no next token where none is left. -/
lemma call_next_of_done (h : s.next? = none) : s.call .next = (.stop, s.finish) := by
  rw [call, advance_of_done h]

/-- Whatever is called for, the scanner delivers the tokens that it answers with. -/
lemma delivers_call (s : Scanner) (c : Call) : s.Delivers (s.call c).1.delivered (s.call c).2 := by
  cases c with
  | next =>
      cases hnext : s.next? with
      | none =>
          rw [call_next_of_done hnext]
          exact delivers_finish hnext
      | some next =>
          obtain ⟨t, s'⟩ := next
          rw [call_next_of_scans (scans_of_next? hnext)]
          exact delivers_of_scans (scans_of_next? hnext)
  | itself => exact .refl s
  | tokens =>
      have hdelivers := delivers_drain s
      rwa [← drain_fst] at hdelivers

/-- A scanner refuses the next token exactly when it has none left. -/
lemma call_next_eq_stop_iff : (s.call .next).1 = .stop ↔ s.tokens = [] := by
  cases hnext : s.next? with
  | none => simp [call_next_of_done hnext, tokens_of_next?_eq_none hnext]
  | some next =>
      obtain ⟨t, s'⟩ := next
      have h := scans_of_next? hnext
      simp [call_next_of_scans h, tokens_of_scans h]

/-! ## Calls in a row -/

/-- Calls in a row deliver what their answers do. The induction is on the calls. -/
lemma delivers_run (s : Scanner) (cs : List Call) :
    s.Delivers ((s.run cs).1.flatMap Answer.delivered) (s.run cs).2 := by
  induction cs generalizing s with
  | nil => exact .refl s
  | cons c cs ih => exact (delivers_call s c).trans (ih _)

/-- Calls go on from where those before them have led. -/
lemma run_append (s : Scanner) (cs ds : List Call) :
    s.run (cs ++ ds) =
      ((s.run cs).1 ++ ((s.run cs).2.run ds).1, ((s.run cs).2.run ds).2) := by
  induction cs generalizing s with
  | nil => rfl
  | cons c cs ih => simp only [List.cons_append, run, ih]

/-- The tokens that are left come one by one until there is none, and the scanner stands then as if
it had been drained. -/
lemma run_nexts (s : Scanner) :
    s.run (List.replicate s.tokens.length .next ++ [.next]) =
      (s.tokens.map .token ++ [.stop], s.drain.2) := by
  induction s using scanner_induction with
  | done s h =>
      rw [tokens_of_next?_eq_none h, drain_of_done h]
      simp [run, call_next_of_done h]
  | scan s t s' h ih =>
      rw [tokens_of_scans h, drain_of_scans h, List.length_cons, List.replicate_succ,
        List.cons_append, run, call_next_of_scans h]
      simp only [ih, List.map_cons, List.cons_append]

/-! ## All calls -/

/-- The scanner of a template after some calls. -/
def afterCalls (template : String) (calls : List Call) : Scanner :=
  ((start template).run calls).2

/-- The tokens of a template that some calls deliver, in order. -/
def deliveredBy (template : String) (calls : List Call) : List Token :=
  ((start template).run calls).1.flatMap Answer.delivered

/-- The calls deliver their tokens from the start of the template. -/
lemma delivers_afterCalls (template : String) (calls : List Call) :
    (start template).Delivers (deliveredBy template calls) (afterCalls template calls) :=
  delivers_run (start template) calls

/-- What some calls deliver and what is left after them are all tokens. -/
lemma deliveredBy_append (template : String) (calls : List Call) :
    deliveredBy template calls ++ (afterCalls template calls).tokens = tokenize template :=
  (delivers_afterCalls template calls).tokens_eq.symm

/-- More calls go on from where the first have led. -/
lemma afterCalls_append (template : String) (calls more : List Call) :
    afterCalls template (calls ++ more) = ((afterCalls template calls).run more).2 := by
  rw [afterCalls, run_append, afterCalls]

/-- What is known of a scanner of a template after some calls. -/
structure Streams (template : String) (calls : List Call) : Prop where
  /-- Before any call all characters of the template are left, and it starts outside of directives. -/
  start_eq : afterCalls template [] = ⟨template.toList, false, 0⟩
  /-- What the calls have delivered are the first of all tokens, in order. -/
  delivered_first : deliveredBy template calls <+: tokenize template
  /-- The next token is refused exactly when all have been delivered. -/
  stop_iff : ((afterCalls template calls).call .next).1 = .stop ↔
    deliveredBy template calls = tokenize template
  /-- Once it is refused, it is refused again, whatever is called for in between. -/
  stop_again : ((afterCalls template calls).call .next).1 = .stop →
    ∀ more, ((afterCalls template (calls ++ more)).call .next).1 = .stop
  /-- To ask for all that is left is to ask for the next token until it is refused, which happens
  after exactly those that have not been delivered. -/
  tokens_left : ∃ left, deliveredBy template calls ++ left = tokenize template ∧
    ((afterCalls template calls).call .tokens).1 = .tokens left ∧
      (afterCalls template calls).run (List.replicate left.length .next ++ [.next]) =
        (left.map .token ++ [.stop], ((afterCalls template calls).call .tokens).2)
  /-- Every call moves the cursor on, by at least a character for each token that it delivers. -/
  cursor_advances : ∀ c, (afterCalls template calls).offset +
    ((afterCalls template calls).call c).1.delivered.length ≤
      ((afterCalls template calls).call c).2.offset
  /-- The cursor stays in the template, and what is left comes behind it. -/
  cursor_le : (afterCalls template calls).offset ≤ template.length ∧
    (afterCalls template calls).rest = template.toList.drop (afterCalls template calls).offset
  /-- It stands inside of a directive exactly when the delivered tokens have led into one. -/
  inside_eq : (afterCalls template calls).inside = insideAfter false (deliveredBy template calls)
  /-- So there are no more tokens than characters. -/
  length_tokenize_le : (tokenize template).length ≤ template.length

/-- **Tokens on demand.** After any calls of the scanner of a template, it has delivered the first of
its tokens; it refuses the next one exactly when it has delivered all, and for good; and it delivers
all that are left in finitely many steps, each of which moves the cursor on within the template. -/
theorem streams (template : String) (calls : List Call) : Streams template calls where
  start_eq := rfl
  delivered_first := ⟨_, deliveredBy_append template calls⟩
  stop_iff := by
    rw [call_next_eq_stop_iff, ← deliveredBy_append template calls]
    exact List.self_eq_append_right.symm
  stop_again hstop more := by
    rw [call_next_eq_stop_iff] at hstop ⊢
    have hdelivers := delivers_run (afterCalls template calls) more
    rw [afterCalls_append]
    exact (List.append_eq_nil_iff.mp (hdelivers.tokens_eq.symm.trans hstop)).2
  tokens_left := by
    refine ⟨(afterCalls template calls).tokens, deliveredBy_append template calls, ?_, ?_⟩
    · rw [call, drain_fst]
    · exact run_nexts (afterCalls template calls)
  cursor_advances c := by
    obtain ⟨-, -, passed, -, hoffset, hlength⟩ := delivers_call (afterCalls template calls) c
    omega
  cursor_le := (delivers_afterCalls template calls).of_start.2
  inside_eq := (delivers_afterCalls template calls).inside_eq
  length_tokenize_le := by
    obtain ⟨hlength, hcursor, -⟩ := (delivers_drain (start template)).of_start
    exact hlength.trans hcursor

end Scanner

end Scaffold.Template
