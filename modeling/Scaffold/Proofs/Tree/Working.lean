import Mathlib.Tactic.Lemma
import Scaffold.Proofs.FileSystem.Finding
import Scaffold.Proofs.FileSystem.Hosting
import Scaffold.Tree.Workspace

/-!
# Work that succeeds

* `Work.Yields`: some work ends with an answer and turns one file system into another, whatever has
  been noted before. `Yields.bind` puts two pieces of such work together.
* `yields_makeDirectories`, `yields_copy`, `yields_readTemplate`, `yields_writeText`: the steps of
  the work, where the paths that they concern are those of entries of directories.
-/

namespace Scaffold.Tree.Work

open FileSystem

/-- Some work ends with an answer and turns one file system into another, whatever has been noted
before. -/
def Yields {α : Type} (x : Work α) (fs : FileSystem) (a : α) (fs' : FileSystem) : Prop :=
  ∀ events, ∃ events', x.run ⟨fs, events⟩ = .ok a ⟨fs', events'⟩

variable {α β : Type} {fs fs' fs'' : FileSystem} {a : α} {b : β}

/-! ## Pieces of work -/

/-- Nothing is done, and the files stay. -/
lemma yields_pure (a : α) (fs : FileSystem) : Yields (pure a) fs a fs :=
  fun events => ⟨events, rfl⟩

/-- Work that goes on after some work has ended with an answer. -/
lemma run_bind_of_ok {x : Work α} {f : α → Work β} {w w' : Workspace}
    (h : x.run w = .ok a w') : (x >>= f).run w = (f a).run w' := by
  simp only [EStateM.run, Bind.bind, EStateM.bind] at h ⊢
  rw [h]

/-- Work whose first part has ended with a problem does not go on. -/
lemma run_bind_of_error {x : Work α} {f : α → Work β} {w w' : Workspace} {e : Problem}
    (h : x.run w = .error e w') : (x >>= f).run w = .error e w' := by
  simp only [EStateM.run, Bind.bind, EStateM.bind] at h ⊢
  rw [h]

/-- One piece of work after another. -/
lemma Yields.bind {x : Work α} {f : α → Work β} (hx : x.Yields fs a fs')
    (hf : (f a).Yields fs' b fs'') : (x >>= f).Yields fs b fs'' := by
  intro events
  obtain ⟨events', hrun⟩ := hx events
  obtain ⟨events'', hrun'⟩ := hf events'
  exact ⟨events'', by rw [run_bind_of_ok hrun, hrun']⟩

lemma run_get (w : Workspace) : (get : Work Workspace).run w = .ok w w := rfl

/-- Telling of something leaves the files as they are. -/
lemma yields_note (e : Event) (fs : FileSystem) : (note e).Yields fs () fs :=
  fun events => ⟨events ++ [e], rfl⟩

/-- A question that is answered goes on with the answer. -/
lemma run_ask_of_ok {onFailure : Failure → Problem} {question : FileSystem → Except Failure α}
    {w : Workspace} (h : question w.files = .ok a) : (ask onFailure question).run w = .ok a w := by
  rw [ask, run_bind_of_ok (run_get _)]
  simp only [h]
  rfl

/-- A question that fails stops with what its failure becomes. -/
lemma run_ask_of_error {onFailure : Failure → Problem} {question : FileSystem → Except Failure α}
    {w : Workspace} {f : Failure} (h : question w.files = .error f) :
    (ask onFailure question).run w = .error (onFailure f) w := by
  rw [ask, run_bind_of_ok (run_get _)]
  simp only [h]
  rfl

/-- A question leaves the files as they are. -/
lemma yields_ask {onFailure : Failure → Problem} {question : FileSystem → Except Failure α}
    (h : question fs = .ok a) : (ask onFailure question).Yields fs a fs :=
  fun events => ⟨events, run_ask_of_ok h⟩

/-- An action that fails stops with what its failure becomes, and the files as it leaves them. -/
lemma run_attempt_of_error {onFailure : Failure → Problem}
    {action : FileSystem → Except Failure Unit × FileSystem} {w : Workspace} {f : Failure}
    (h : action w.files = (.error f, fs')) :
    (attempt onFailure action).run w = .error (onFailure f) { w with files := fs' } := by
  rw [attempt, run_bind_of_ok (run_get _)]
  simp only [h]
  rfl

/-- An action that succeeds leaves the files that it gives. -/
lemma yields_attempt {onFailure : Failure → Problem}
    {action : FileSystem → Except Failure Unit × FileSystem} (h : action fs = (.ok (), fs')) :
    (attempt onFailure action).Yields fs () fs' := by
  intro events
  refine ⟨events, ?_⟩
  rw [attempt, run_bind_of_ok (run_get _)]
  simp only [h]
  rfl

/-- A good result leaves the files as they are. -/
lemma yields_lift {ε : Type} {onError : ε → Problem} {x : Except ε α} (h : x = .ok a)
    (fs : FileSystem) : (lift onError x).Yields fs a fs := by
  rw [h]
  exact yields_pure a fs

/-! ## Steps on entries of directories -/

variable {p q : Path} {l l' : Location} {n : String} {content : ByteArray} {text : String}

/-- A directory is made where there is nothing, or is there already. -/
lemma yields_makeDirectories (h : fs.Addresses p l n)
    (hkind : ∀ e, fs.get? (l ++ [n]) = some e → e.kind = .directory) :
    (makeDirectories (p.child n)).Yields fs () (fs.deposit (l ++ [n], .directory)) :=
  yields_attempt (makeDirectories_child h hkind)

/-- The text of a template is read from a file that encodes one. -/
lemma yields_readTemplate (h : fs.find p = .ok (l, .file content))
    (htext : Text.Utf8.decode content = .ok text) : (readTemplate p).Yields fs text fs :=
  (yields_ask (read_of_find h)).bind (yields_lift htext fs)

/-- A file is written as a whole. -/
lemma yields_write {onFailure : Failure → Problem} (h : fs.write p content = .ok fs') :
    (attempt onFailure (Host.write · p content)).Yields fs () fs' :=
  yields_attempt (Host.write_ample_of_ok h)

/-- A text is written where there is no file or another one. -/
lemma yields_writeText (h : fs.Addresses p l n)
    (hkind : ∀ e, fs.get? (l ++ [n]) = some e → e.kind = .file) (text : String) :
    (writeText (p.child n) text).Yields fs ()
      (fs.deposit (l ++ [n], .file text.toByteArray)) :=
  (yields_lift (Host.encode_ample text) fs).bind (yields_write (write_child h hkind text.toByteArray))

/-- A file is copied to another location. -/
lemma yields_copy (hsource : fs.find p = .ok (l', .file content)) (h : fs.Addresses q l n)
    (hkind : ∀ e, fs.get? (l ++ [n]) = some e → e.kind = .file) (hne : l' ≠ l ++ [n]) :
    (copy p (q.child n)).Yields fs () (fs.deposit (l ++ [n], .file content)) := by
  have hsame : fs.sameEntry p (q.child n) = .ok false := by
    refine sameEntry_child hsource h (fun target ht => ?_) hne
    cases hkind _ ht
  refine (yields_ask hsame).bind ?_
  simp only [Bool.false_eq_true, if_false]
  exact (yields_ask (read_of_find hsource)).bind (yields_write (write_child h hkind content))

end Scaffold.Tree.Work
