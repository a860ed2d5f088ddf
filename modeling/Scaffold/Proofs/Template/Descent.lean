import Mathlib.Tactic.Lemma
import Scaffold.Proofs.Template.Grammar
import Scaffold.Template.Descent

/-!
# Reading by descent is reading token by token

The procedures that go down into conditionals and the machine that keeps them on a stack read alike:
the same statements, the same errors, and they stop at the same place.

* `Follows`: a procedure does at a place what the machine does there, with some progress.
* `follows_block`: a block is read as the machine reads it, if it ends at what ends the innermost
  open conditional. This is the one induction; the other procedures are put together from it.
* `Reader.read_eq`: what a reader answers, and where its cursor stands then, told by the machine.
-/

namespace Scaffold.Template

variable {ts : List Token} {i j k : Nat} {t : Token} {p q : Progress} {block : List Statement}
  {os : List OpenConditional} {e : SyntaxError} {kinds : List Token.Kind}

/-! ## Places -/

/-- One of some kinds stands at a place if a token of such a kind is there. -/
lemma standsAt_iff : standsAt ts i kinds = true ↔ ∃ t, ts[i]? = some t ∧ t.kind ∈ kinds := by
  unfold standsAt
  split <;> simp_all

/-- The token that is there decides. -/
lemma standsAt_of_some (h : ts[i]? = some t) : standsAt ts i kinds = decide (t.kind ∈ kinds) := by
  simp [standsAt, h]

/-- At the place behind the brackets there is none. -/
lemma not_standsAt_skipBrackets (ts : List Token) (i : Nat) :
    standsAt ts (skipBrackets ts i) [.openBracket, .closeBracket] = false := by
  fun_induction skipBrackets ts i <;> simp_all

/-- Skipping brackets stays within the tokens. -/
lemma skipBrackets_le (h : i ≤ ts.length) : skipBrackets ts i ≤ ts.length := by
  fun_induction skipBrackets ts i with
  | case1 i hi ih => exact ih (lt_length_of_standsAt hi)
  | case2 i hi => exact h

/-! ## The machine at a place -/

/-- The tokens from a place on start with the token there. -/
lemma drop_eq_cons (h : ts[i]? = some t) : ts.drop i = t :: ts.drop (i + 1) := by
  obtain ⟨hi, rfl⟩ := List.getElem?_eq_some_iff.mp h
  exact List.drop_eq_getElem_cons hi

/-- A token that is taken is read over. -/
lemma readFrom_of_accepts (h : ts[i]? = some t) (ha : Accepts p t q) :
    readFrom p (ts.drop i) = readFrom q (ts.drop (i + 1)) := by
  rw [drop_eq_cons h, readFrom, step_of_accepts ha]

/-- A token that is refused ends the reading. -/
lemma readFrom_of_refuses (h : ts[i]? = some t) (he : p.step t = .error e) :
    readFrom p (ts.drop i) = (.error e, ts.drop i) := by
  rw [drop_eq_cons h, readFrom, he]

/-- Reading ends behind the last token. -/
lemma readFrom_at_end (h : ts[i]? = none) : readFrom p (ts.drop i) = (p.finish, ts.drop i) := by
  rw [List.drop_eq_nil_iff.mpr (List.getElem?_eq_none_iff.mp h), readFrom]

/-- Where a statement may start, the machine passes over the brackets as well. -/
lemma readFrom_skipBrackets (ts : List Token) (i : Nat) (block : List Statement)
    (os : List OpenConditional) :
    readFrom ⟨block, os, .statement⟩ (ts.drop i) =
      readFrom ⟨block, os, .statement⟩ (ts.drop (skipBrackets ts i)) := by
  fun_induction skipBrackets ts i with
  | case1 i h ih =>
      obtain ⟨t, ht, hk⟩ := standsAt_iff.mp h
      rw [readFrom_of_accepts ht (.bracket (by simpa [Token.isBracket] using hk)), ih]
  | case2 i h => rfl

/-! ## Doing what the machine does -/

/-- What a procedure gives at a place agrees with what the machine does there from some progress on:
it goes on with the progress and from the place that belong to the result, or it fails with the error
of the refusal, at the place of the cursor. -/
def Follows {α : Type} (ts : List Token) (p : Progress) (i : Nat) (x : Except GivenUp α)
    (reached : α → Progress × Nat) : Prop :=
  match x with
  | .ok a => readFrom p (ts.drop i) = readFrom (reached a).1 (ts.drop (reached a).2)
  | .error g => g.cursor ≤ ts.length ∧
      ∃ e : SyntaxError, e.refusal = g.refusal ∧
        readFrom p (ts.drop i) = (.error e, ts.drop g.cursor)

/-- One procedure after another. -/
lemma Follows.bind {α β : Type} {x : Except GivenUp α} {f : α → Except GivenUp β}
    {reached : α → Progress × Nat} {reached' : β → Progress × Nat} (h : Follows ts p i x reached)
    (h' : ∀ a, x = .ok a → Follows ts (reached a).1 (reached a).2 (f a) reached') :
    Follows ts p i (x >>= f) reached' := by
  cases x with
  | error g => exact h
  | ok a =>
      have hread : readFrom p (ts.drop i) = _ := h
      have hnext := h' a rfl
      change Follows ts p i (f a) reached'
      unfold Follows at hnext ⊢
      rw [hread]
      exact hnext

/-- The machine may have gone some way before. -/
lemma Follows.of_readFrom_eq {α : Type} {x : Except GivenUp α} {reached : α → Progress × Nat}
    (h : readFrom p (ts.drop i) = readFrom q (ts.drop j)) (h' : Follows ts q j x reached) :
    Follows ts p i x reached := by
  unfold Follows at h' ⊢
  rw [h]
  exact h'

/-- The kinds of the tokens that end the innermost block. -/
def endKinds : List OpenConditional → List Token.Kind
  | [] => []
  | ⟨_, _, _, none⟩ :: _ => [.elseWord, .endifWord]
  | ⟨_, _, _, some _⟩ :: _ => [.endifWord]

/-- Blocks are read from a place as the machine reads them, in whatever they stand. -/
def BlockFollows (ts : List Token) (i : Nat) : Prop :=
  ∀ block os, Follows ts ⟨block, os, .statement⟩ i (readBlock (endKinds os) ts i)
    fun a => (⟨block ++ a.1, os, .statement⟩, a.2)

/-- A refusal at a token. -/
lemma follows_error {α : Type} {reached : α → Progress × Nat} (h : ts[i]? = some t)
    (he : p.step t = .error e) :
    Follows ts p i (.error ⟨e.refusal, i⟩ : Except GivenUp α) reached :=
  ⟨(List.getElem?_eq_some_iff.mp h).1.le, e, rfl, readFrom_of_refuses h he⟩

/-- A refusal at the end. -/
lemma follows_error_at_end {α : Type} {reached : α → Progress × Nat} (h : ts[i]? = none)
    (hi : i ≤ ts.length) (he : p.finish = .error e) :
    Follows ts p i (.error ⟨e.refusal, i⟩ : Except GivenUp α) reached := by
  refine ⟨hi, e, rfl, ?_⟩
  rw [readFrom_at_end h, he]

/-! ## Procedure by procedure -/

/-- A token that starts nothing and ends nothing is refused. -/
lemma step_unexpected (hend : t.kind ∉ endKinds os) (hk : t.kind ∈ [Token.Kind.bang, .elseWord,
    .endifWord]) : Progress.step ⟨block, os, .statement⟩ t = .error (.unexpected t) := by
  obtain ⟨kind, value, position⟩ := t
  simp only [List.mem_cons, List.not_mem_nil, or_false] at hk
  rcases hk with rfl | rfl | rfl
  · rfl
  · rcases os with - | ⟨⟨n, negated, before, - | T⟩, os⟩
    · rfl
    · simp [endKinds] at hend
    · rfl
  · rcases os with - | ⟨⟨n, negated, before, - | T⟩, os⟩
    · rfl
    · simp [endKinds] at hend
    · simp [endKinds] at hend

/-- What a result is made into does not matter to where it leads. -/
lemma follows_pure {α : Type} {a : α} {reached : α → Progress × Nat}
    (h : readFrom p (ts.drop i) = readFrom (reached a).1 (ts.drop (reached a).2)) :
    Follows ts p i (pure a) reached :=
  h

/-- The variable of a condition, where no negation sign can come any more. -/
lemma follows_name {negated : Bool} (hi : i ≤ ts.length)
    (hbang : negated = true ∨ standsAt ts i [.bang] = false) :
    Follows ts ⟨block, os, .condition negated⟩ i (readName ts i)
      fun a => (⟨[], ⟨a.1, negated, block, none⟩ :: os, .statement⟩, a.2) := by
  unfold readName
  split
  · rename_i h
    exact follows_error_at_end (e := .missingCondition none) h hi rfl
  · rename_i t h
    have hstep (hk : t.kind ≠ .variable) (hinvalid : t.kind ≠ .invalid) :
        Progress.step ⟨block, os, .condition negated⟩ t = .error (.missingCondition (some t)) := by
      rw [standsAt_of_some h] at hbang
      revert hk hinvalid hbang
      unfold Progress.step Progress.stepCondition
      cases t.kind <;> cases negated <;> simp
    split
    · rename_i hk
      refine follows_error (e := .invalidCharacter t.value t.position) h ?_
      simp [Progress.step, Progress.stepCondition, hk]
    · rename_i hk
      exact readFrom_of_accepts h (.conditionName hk)
    · rename_i hinvalid hk
      exact follows_error (e := .missingCondition (some t)) h (hstep hk hinvalid)

/-- The head of a conditional behind its `if`. -/
lemma follows_condition (hi : i ≤ ts.length) :
    Follows ts ⟨block, os, .condition false⟩ i (readCondition ts i)
      fun a => (⟨[], ⟨a.1, a.2.1, block, none⟩ :: os, .statement⟩, a.2.2) := by
  unfold readCondition
  split
  · rename_i h
    obtain ⟨t, ht, hk⟩ := standsAt_iff.mp h
    have hlt := lt_length_of_standsAt h
    refine .of_readFrom_eq (readFrom_of_accepts ht (.bang (by simpa using hk))) ?_
    refine (follows_name hlt (.inl rfl)).bind fun ⟨name, j, hj⟩ _ => follows_pure rfl
  · rename_i h
    refine (follows_name hi (.inr (by simpa using h))).bind fun ⟨name, j⟩ _ => follows_pure rfl

/-- The end of a conditional, with or without an `else` clause. -/
lemma follows_end {s : Statement} {before : List Statement} {o : OpenConditional}
    (hi : i ≤ ts.length)
    (hleave : Progress.leave? ⟨block, o :: os, .statement⟩ =
      some ⟨before ++ [s], os, .statement⟩)
    (hstops : ts[i]? = none ∨ standsAt ts i [.endifWord] = true) :
    Follows ts ⟨block, o :: os, .statement⟩ i (readEnd s ts i)
      fun a => (⟨before ++ [a.1], os, .statement⟩, a.2) := by
  unfold readEnd
  split
  · rename_i h
    obtain ⟨t, ht, hk⟩ := standsAt_iff.mp h
    have hstep : Progress.step ⟨block, o :: os, .statement⟩ t =
        .ok ⟨before ++ [s], os, .statement⟩ := by
      simp only [List.mem_singleton] at hk
      simp [Progress.step, Progress.stepStatement, hk, hleave]
    exact readFrom_of_accepts ht (accepts_of_step hstep)
  · rename_i h
    have hend := hstops.resolve_right h
    rw [hend]
    exact follows_error_at_end (e := .unclosed) hend hi rfl

/-- A block ends behind the last token, or at a token of the kinds that are asked for. -/
lemma ends_of_readBlock {S : List Statement} {k : { j : Nat // i ≤ j }} (hi : i ≤ ts.length)
    (h : readBlock kinds ts i = .ok (S, k)) :
    k.1 ≤ ts.length ∧ (ts[k.1]? = none ∨ standsAt ts k kinds = true) := by
  induction hn : ts.length - i using Nat.strong_induction_on generalizing i S k with
  | _ n ih =>
      rw [readBlock] at h
      split at h
      · rename_i hstop
        obtain ⟨-, rfl⟩ := Prod.mk.inj (Except.ok.inj h)
        exact ⟨skipBrackets_le hi, hstop⟩
      · cases hs : readStatement ts (skipBrackets ts i) with
        | error g => simp [hs, bind, Except.bind] at h
        | ok a =>
            obtain ⟨s, j, hj⟩ := a
            cases hb : readBlock kinds ts j with
            | error g => simp [hs, hb, bind, Except.bind] at h
            | ok b =>
                obtain ⟨ss, l, hl⟩ := b
                have hle := le_skipBrackets ts i
                simp only [hs, hb, bind, Except.bind, pure, Except.pure] at h
                obtain ⟨-, rfl⟩ := Prod.mk.inj (Except.ok.inj h)
                have hends := ih (ts.length - j) (by omega) hj.2 hb rfl
                exact hends

/-- A conditional is read as the machine reads it, if the blocks further on are. -/
lemma follows_conditional (block : List Statement) (os : List OpenConditional)
    (ih : ∀ j, i < j → BlockFollows ts j) (h : ts[i]? = some t) (ht : t.kind = .ifWord) :
    Follows ts ⟨block, os, .statement⟩ i (readConditional ts i)
      fun a => (⟨block ++ [a.1], os, .statement⟩, a.2) := by
  have hi := (List.getElem?_eq_some_iff.mp h).1
  rw [readConditional]
  refine .of_readFrom_eq (readFrom_of_accepts h (.ifWord ht)) ?_
  refine (follows_condition hi).bind fun ⟨name, negated, j, hj⟩ _ => ?_
  have hthen := ih j (by omega) [] (⟨name, negated, block, none⟩ :: os)
  refine hthen.bind fun ⟨T, k, hk⟩ hT => ?_
  obtain ⟨hkle, hends⟩ := ends_of_readBlock hj.2 hT
  dsimp only at hends ⊢
  split
  · rename_i hturn
    obtain ⟨u, hu, huk⟩ := standsAt_iff.mp hturn
    refine .of_readFrom_eq (readFrom_of_accepts hu (.elseWord (by simpa using huk))) ?_
    have helse := ih (k + 1) (by omega) [] (⟨name, negated, block, some T⟩ :: os)
    refine helse.bind fun ⟨F, l, hl⟩ hF => ?_
    obtain ⟨hlle, hends⟩ := ends_of_readBlock (lt_length_of_standsAt hturn) hF
    exact (follows_end hlle rfl hends).bind fun ⟨s, m, hm⟩ _ => follows_pure rfl
  · rename_i hturn
    refine (follows_end hkle rfl ?_).bind fun ⟨s, m, hm⟩ _ => follows_pure rfl
    refine hends.imp_right fun hstands => ?_
    obtain ⟨u, hu, huk⟩ := standsAt_iff.mp hstands
    rw [standsAt_of_some hu] at hturn ⊢
    have hother : u.kind ≠ .elseWord := by simpa using hturn
    simpa [endKinds, hother] using huk

/-- A statement is read as the machine reads it, if the blocks further on are. Where the block ends
and where the tokens end, no statement is asked for. -/
lemma follows_statement (block : List Statement) (os : List OpenConditional)
    (ih : ∀ j, i < j → BlockFollows ts j)
    (hstarts : ts[skipBrackets ts i]? ≠ none)
    (hgoes : standsAt ts (skipBrackets ts i) (endKinds os) = false) :
    Follows ts ⟨block, os, .statement⟩ i (readStatement ts i)
      fun a => (⟨block ++ [a.1], os, .statement⟩, a.2) := by
  have hle := le_skipBrackets ts i
  have hbracket := not_standsAt_skipBrackets ts i
  refine .of_readFrom_eq (readFrom_skipBrackets ts i block os) ?_
  rw [readStatement]
  split
  · rename_i h
    exact absurd h hstarts
  · rename_i t h
    dsimp only
    split
    · rename_i hk
      refine follows_error (e := .invalidCharacter t.value t.position) h ?_
      simp [Progress.step, Progress.stepStatement, hk]
    · rename_i hk
      exact readFrom_of_accepts h (.text hk)
    · rename_i hk
      exact readFrom_of_accepts h (.name hk)
    · rename_i hk
      have hconditional := follows_conditional block os (fun j hj => ih j (by omega)) h hk
      exact hconditional.bind fun ⟨s, j, hj⟩ _ => follows_pure rfl
    · rename_i hinvalid htext hname hif
      rw [standsAt_of_some h] at hbracket hgoes
      refine follows_error (e := .unexpected t) h (step_unexpected (by simpa using hgoes) ?_)
      revert hinvalid htext hname hif hbracket
      cases t.kind <;> simp

/-- A block is read as the machine reads it. -/
lemma follows_block (ts : List Token) (i : Nat) : BlockFollows ts i := by
  induction hn : ts.length - i using Nat.strong_induction_on generalizing i with
  | _ n ih =>
      intro block os
      have hle := le_skipBrackets ts i
      refine .of_readFrom_eq (readFrom_skipBrackets ts i block os) ?_
      rw [readBlock]
      split
      · exact follows_pure (by simp)
      · rename_i hgoes
        obtain ⟨hstarts, hgoes⟩ := not_or.mp hgoes
        have hlt := not_le.mp (mt List.getElem?_eq_none_iff.mpr hstarts)
        have hblock (j : Nat) (hj : skipBrackets ts i < j) : BlockFollows ts j :=
          ih (ts.length - j) (by omega) j rfl
        have hskip : skipBrackets ts (skipBrackets ts i) = skipBrackets ts i := by
          rw [skipBrackets, dif_neg (by simp [not_standsAt_skipBrackets])]
        have hstatement := follows_statement block os hblock (by rwa [hskip])
          (by rw [hskip]; simpa using hgoes)
        refine hstatement.bind fun ⟨s, j, hj⟩ _ => ?_
        refine (hblock j hj.1 (block ++ [s]) os).bind fun ⟨ss, l, hl⟩ _ => follows_pure ?_
        simp

/-! ## Readers -/

/-- The tokens that a reader has not passed. -/
def Reader.rest (r : Reader) : List Token :=
  r.tokens.drop r.cursor

/-- **The two ways of reading agree.** What a reader answers is what the machine answers on the tokens
that are left, and it stops where the machine does. -/
theorem Reader.read_eq {r : Reader} (hr : r.cursor ≤ r.tokens.length) :
    r.read = ((readStatements r.rest).1.mapError SyntaxError.refusal,
      ⟨r.tokens, r.tokens.length - (readStatements r.rest).2.length⟩) := by
  obtain ⟨ts, i⟩ := r
  have hblock := follows_block ts i [] []
  unfold Follows at hblock
  unfold Reader.read Reader.rest readStatements
  dsimp only [endKinds] at hr hblock ⊢
  cases hread : readBlock [] ts i with
  | error g =>
      rw [hread] at hblock
      obtain ⟨hg, e, he, hmachine⟩ := hblock
      rw [hmachine, List.length_drop, Nat.sub_sub_self hg]
      exact Prod.ext (congrArg Except.error he.symm) rfl
  | ok a =>
      obtain ⟨S, k, hk⟩ := a
      obtain ⟨hkle, hend⟩ := ends_of_readBlock hr hread
      have hnone : ts[k]? = none := hend.resolve_right (by simp [standsAt_iff])
      rw [hread] at hblock
      rw [hblock, readFrom_at_end hnone, List.length_drop, Nat.sub_sub_self hkle]
      rfl

/-- A reader that has passed nothing yet. -/
lemma Reader.read_fresh (ts : List Token) :
    (⟨ts, 0⟩ : Reader).read = ((readStatements ts).1.mapError SyntaxError.refusal,
      ⟨ts, ts.length - (readStatements ts).2.length⟩) :=
  Reader.read_eq (Nat.zero_le _)

/-- What the machine leaves stands at the end of what it was given. -/
lemma readFrom_suffix (p : Progress) (ts : List Token) : (readFrom p ts).2 <:+ ts := by
  induction ts generalizing p with
  | nil => exact List.suffix_refl []
  | cons t ts ih =>
      rw [readFrom]
      cases p.step t with
      | error e => exact List.suffix_refl _
      | ok q => exact (ih q).trans (List.suffix_cons t ts)

/-- A reader that has read leaves what the machine leaves. -/
lemma Reader.rest_read {r : Reader} (hr : r.cursor ≤ r.tokens.length) :
    r.read.2.rest = (readStatements r.rest).2 := by
  rw [Reader.read_eq hr]
  have hsuffix : (readStatements r.rest).2 <:+ r.tokens :=
    (readFrom_suffix {} r.rest).trans (List.drop_suffix _ _)
  exact (List.suffix_iff_eq_drop.mp hsuffix).symm

end Scaffold.Template
