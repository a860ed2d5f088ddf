import Mathlib.Tactic.Lemma

/-!
# How a step ends

A step with a state ends with an answer or with an error, and either way leaves a state behind.

* `Ends`: what holds of the answer and the state that a step leaves, and what of the error and the
  state.
* `ends_run`: a step ends as its run does.
* `Ends.bind`: a step that goes on after another one.
* `Ends.mono`, `Ends.and`: less may be said of an ending, and two things may be said together.
-/

namespace Scaffold

variable {ε σ α β : Type} {x : EStateM ε σ α} {f : α → EStateM ε σ β} {s s' : σ} {a : α} {e : ε}
  {Q Q' : α → σ → Prop} {R R' : ε → σ → Prop}

/-- A step ends with an answer and a state of which `Q` holds, or with an error and a state of which
`R` holds. -/
structure Ends (x : EStateM ε σ α) (s : σ) (Q : α → σ → Prop) (R : ε → σ → Prop) : Prop where
  of_run_ok : ∀ {a s'}, x.run s = .ok a s' → Q a s'
  of_run_error : ∀ {e s'}, x.run s = .error e s' → R e s'

/-! ## Reading an ending -/

/-- A step ends as its run does. -/
lemma ends_run (x : EStateM ε σ α) (s : σ) :
    Ends x s (fun a s' => x.run s = .ok a s') (fun e s' => x.run s = .error e s') :=
  ⟨fun h => h, fun h => h⟩

/-- How a run with success ends. -/
lemma ends_of_run_ok (hrun : x.run s = .ok a s') (h : Q a s') : Ends x s Q R where
  of_run_ok h' := by
    obtain ⟨rfl, rfl⟩ := EStateM.Result.ok.inj (hrun.symm.trans h')
    exact h
  of_run_error h' := by
    cases hrun.symm.trans h'

/-- How a run that fails ends. -/
lemma ends_of_run_error (hrun : x.run s = .error e s') (h : R e s') : Ends x s Q R where
  of_run_ok h' := by
    cases hrun.symm.trans h'
  of_run_error h' := by
    obtain ⟨rfl, rfl⟩ := EStateM.Result.error.inj (hrun.symm.trans h')
    exact h

/-- A step that does not end with an answer ends with an error. -/
lemma Ends.exists_run_error (h : Ends x s (fun _ _ => False) R) :
    ∃ e s', x.run s = .error e s' ∧ R e s' := by
  cases hrun : x.run s with
  | ok a s' => exact (h.of_run_ok hrun).elim
  | error e s' => exact ⟨e, s', rfl, h.of_run_error hrun⟩

/-- A step that does not end with an error ends with an answer. -/
lemma Ends.exists_run_ok (h : Ends x s Q fun _ _ => False) :
    ∃ a s', x.run s = .ok a s' ∧ Q a s' := by
  cases hrun : x.run s with
  | ok a s' => exact ⟨a, s', rfl, h.of_run_ok hrun⟩
  | error e s' => exact (h.of_run_error hrun).elim

/-- How a step ends can be found out by taking it. -/
instance [∀ a s', Decidable (Q a s')] [∀ e s', Decidable (R e s')] : Decidable (Ends x s Q R) :=
  match hrun : x.run s with
  | .ok a s' =>
    decidable_of_iff (Q a s') ⟨fun h => ends_of_run_ok hrun h, fun h => h.of_run_ok hrun⟩
  | .error e s' =>
    decidable_of_iff (R e s') ⟨fun h => ends_of_run_error hrun h, fun h => h.of_run_error hrun⟩

/-- A run ends in every way that is wider. -/
lemma Ends.mono (h : Ends x s Q R) (hQ : ∀ a s', Q a s' → Q' a s')
    (hR : ∀ e s', R e s' → R' e s') : Ends x s Q' R' :=
  ⟨fun hrun => hQ _ _ (h.of_run_ok hrun), fun hrun => hR _ _ (h.of_run_error hrun)⟩

/-- A run that ends in two ways ends in both. -/
lemma Ends.and (h : Ends x s Q R) (h' : Ends x s Q' R') :
    Ends x s (fun a s' => Q a s' ∧ Q' a s') (fun e s' => R e s' ∧ R' e s') :=
  ⟨fun hrun => ⟨h.of_run_ok hrun, h'.of_run_ok hrun⟩,
    fun hrun => ⟨h.of_run_error hrun, h'.of_run_error hrun⟩⟩

/-! ## Putting steps together -/

/-- Nothing is done. -/
lemma ends_pure (h : Q a s) : Ends (pure a : EStateM ε σ α) s Q R :=
  ends_of_run_ok rfl h

/-- An error is raised, and the state stays. -/
lemma ends_throw (h : R e s) : Ends (throw e : EStateM ε σ α) s Q R :=
  ends_of_run_error rfl h

/-- The state is asked for. -/
lemma ends_get {Q : σ → σ → Prop} (h : Q s s) : Ends (get : EStateM ε σ σ) s Q R :=
  ends_of_run_ok rfl h

/-- The state is changed. -/
lemma ends_modify {Q : Unit → σ → Prop} {g : σ → σ} (h : Q () (g s)) :
    Ends (modify g : EStateM ε σ Unit) s Q R :=
  ends_of_run_ok rfl h

/-- A step that goes on after another one: an error of the first is one of both. -/
lemma Ends.bind {Q : β → σ → Prop} (h : Ends x s (fun a s' => Ends (f a) s' Q R) R) :
    Ends (x >>= f) s Q R := by
  cases hx : x.run s with
  | ok a s' =>
      have hrun : (x >>= f).run s = (f a).run s' := by
        simp only [EStateM.run, Bind.bind, EStateM.bind] at hx ⊢
        rw [hx]
      have hrest := h.of_run_ok hx
      exact ⟨fun h' => hrest.of_run_ok (hrun ▸ h'), fun h' => hrest.of_run_error (hrun ▸ h')⟩
  | error e s' =>
      have hrun : (x >>= f).run s = .error e s' := by
        simp only [EStateM.run, Bind.bind, EStateM.bind] at hx ⊢
        rw [hx]
      exact ends_of_run_error hrun (h.of_run_error hx)

end Scaffold
