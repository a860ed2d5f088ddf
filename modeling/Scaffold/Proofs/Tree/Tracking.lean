import Mathlib.Tactic.Lemma
import Scaffold.Proofs.Tree.Stopping

/-!
# Renderings that keep a journal

A rendering says nothing of the directories that it comes to. Here it is done once more, step by step,
with a journal in which the path of every entry is put down when the rendering comes to it, whether it
is passed over, entered, rendered or copied.

* `Journal`, `Tracked`: a workspace with the paths of the entries so far; work that keeps a journal.
* `trackTree`: a rendering that keeps a journal.
* `Erases`: work is what is left of work with a journal when the journal is dropped. It is so of every
  step of a rendering, and `Erases.bind` puts steps together.
* `erases_trackTree`: a rendering with a journal is a rendering.
-/

namespace Scaffold.Tree

/-- A workspace, and the paths of the entries that a rendering has come to so far. -/
structure Journal where
  workspace : Workspace
  trail : List Path := []

/-- Work that keeps a journal. -/
abbrev Tracked := EStateM Problem Journal

namespace Tracked

variable {α β : Type}

/-- Work that comes to no entry. -/
def lift (x : Work α) : Tracked α := fun j =>
  match x.run j.workspace with
  | .ok a w => .ok a { j with workspace := w }
  | .error e w => .error e { j with workspace := w }

/-- Comes to the entry at a path. -/
def come (p : Path) : Tracked Unit :=
  modify fun j => { j with trail := j.trail ++ [p] }

/-- Work is what is left of work with a journal when the journal is dropped. -/
def Erases (x : Tracked α) (y : Work α) : Prop :=
  ∀ j, Ends x j (fun a j' => y.run j.workspace = .ok a j'.workspace)
    fun e j' => y.run j.workspace = .error e j'.workspace

/-! ## Steps -/

/-- A step without entries ends as it does without a journal. -/
lemma ends_lift {x : Work α} {j : Journal} {Q : α → Journal → Prop} {R : Problem → Journal → Prop}
    (h : Ends x j.workspace (fun a w => Q a { j with workspace := w })
      fun e w => R e { j with workspace := w }) : Ends (lift x) j Q R := by
  cases hrun : x.run j.workspace with
  | ok a w =>
      refine ends_of_run_ok ?_ (h.of_run_ok hrun)
      simp only [EStateM.run, lift] at hrun ⊢
      rw [hrun]
  | error e w =>
      refine ends_of_run_error ?_ (h.of_run_error hrun)
      simp only [EStateM.run, lift] at hrun ⊢
      rw [hrun]

/-- Coming to a directory is written down. -/
lemma ends_come {p : Path} {j : Journal} {Q : Unit → Journal → Prop} {R : Problem → Journal → Prop}
    (h : Q () { j with trail := j.trail ++ [p] }) : Ends (come p) j Q R :=
  ends_modify h

/-- Work that is taken over is what it was. -/
lemma erases_lift (x : Work α) : Erases (lift x) x :=
  fun j => ends_lift (ends_run x j.workspace)

/-- Nothing is done. -/
lemma erases_pure (a : α) : Erases (pure a) (pure a) :=
  fun _ => ends_pure rfl

/-- A problem is raised all the same. -/
lemma erases_throw (e : Problem) : Erases (throw e : Tracked α) (throw e) :=
  fun _ => ends_throw rfl

/-- Steps in a row are what they were if each of them is. -/
lemma Erases.bind {x : Tracked α} {y : Work α} {f : α → Tracked β} {g : α → Work β}
    (hx : Erases x y) (hf : ∀ a, Erases (f a) (g a)) : Erases (x >>= f) (y >>= g) := by
  intro j
  refine Ends.bind ((hx j).mono (fun a j₁ hy => ?_) fun e j₁ hy => ?_)
  · rw [Work.run_bind_of_ok hy]
    exact hf a j₁
  · exact Work.run_bind_of_error hy

/-- Coming to an entry leaves no trace when the journal is dropped. -/
lemma Erases.come_bind {p : Path} {x : Tracked α} {y : Work α} (h : Erases x y) :
    Erases (come p >>= fun _ => x) y :=
  fun _ => Ends.bind (ends_come (h _))

end Tracked

/-! ## Renderings -/

namespace Renderer

open Tracked

/-- Comes to the entries of given names in turn. -/
def trackAll (visit : String → Tracked (List Path)) : List String → Tracked (List Path)
  | [] => pure []
  | n :: ns => do
    let first ← visit n
    let rest ← trackAll visit ns
    return first ++ rest

/-- The entries of a directory are what is left of them when the journal is dropped, one by one. -/
lemma erases_trackAll {visit : String → Tracked (List Path)} {visit' : String → Work (List Path)}
    (h : ∀ n, Erases (visit n) (visit' n)) (names : List String) :
    Erases (trackAll visit names) (visitAll visit' names) := by
  induction names with
  | nil => exact erases_pure []
  | cons n names ih =>
      exact (h n).bind fun first => ih.bind fun rest => erases_pure (first ++ rest)

variable [Host]

/-- Comes to the entry of a given name, and renders it; `descend` renders a directory into another. -/
def trackVisit (r : Renderer) (descend : Path → Path → Tracked (List Path))
    (directory output : Path) (name : String) : Tracked (List Path) := do
  let source := directory.child name
  come source
  if name ∈ r.conventions.ignoredNames then
    lift (Work.note (.skipping source))
    return []
  else if ← lift (Work.ask .unanswered (Host.isDirectory · source)) then
    let targetName ← lift (Work.lift .template (r.directoryName name))
    let target := output.join (.ofString targetName)
    lift (Work.makeDirectories target)
    descend source target
  else
    lift (r.visitFile directory output name)

/-- Renders the entries of a directory into another, to a given depth, and keeps a journal. -/
def trackDirectory (r : Renderer) : Nat → Path → Path → Tracked (List Path)
  | 0, directory, _ =>
    throw (.failed .listDirectory directory (.system .nameTooLong directory))
  | depth + 1, directory, output => do
    let names ← lift (Work.ask (.ofFailure .listDirectory directory) (Host.list · directory))
    trackAll (r.trackVisit (trackDirectory r depth) directory output) (sortNames names)

/-- Renders a template tree into a directory, and keeps a journal. -/
def trackTree (r : Renderer) (root output : Path) : Tracked (List Path) := do
  unless ← lift (Work.ask .unanswered (Host.isDirectory · root)) do
    throw (.missingRoot root)
  lift (Work.makeDirectories output)
  r.trackDirectory FileSystem.pathLimit root output

variable {r : Renderer}

/-- A visit is what it was if the descent is. -/
lemma erases_trackVisit {descend : Path → Path → Tracked (List Path)}
    {descend' : Path → Path → Work (List Path)} (h : ∀ p q, Erases (descend p q) (descend' p q))
    (p q : Path) (n : String) :
    Erases (r.trackVisit descend p q n) (r.visit descend' p q n) := by
  unfold trackVisit visit
  refine Erases.come_bind ?_
  by_cases hignored : n ∈ r.conventions.ignoredNames
  · simp only [if_pos hignored]
    exact (erases_lift _).bind fun _ => erases_pure []
  · simp only [if_neg hignored]
    refine (erases_lift _).bind fun isDir => ?_
    cases isDir with
    | true =>
        refine (erases_lift _).bind fun t => (erases_lift _).bind fun _ => ?_
        exact h (p.child n) (q.join (.ofString t))
    | false => exact erases_lift _

/-- Rendering a directory is what it was, at any depth. -/
lemma erases_trackDirectory (r : Renderer) (depth : Nat) (p q : Path) :
    Erases (r.trackDirectory depth p q) (r.renderDirectory depth p q) := by
  induction depth generalizing p q with
  | zero => exact erases_throw _
  | succ depth ih =>
      exact (erases_lift _).bind fun names => erases_trackAll (erases_trackVisit ih p q) _

/-- A rendering that keeps a journal is a rendering if the journal is dropped. -/
theorem erases_trackTree (r : Renderer) (root output : Path) :
    Erases (r.trackTree root output) (r.renderTree root output) := by
  refine (erases_lift _).bind fun isDir => ?_
  cases isDir with
  | true => exact (erases_lift _).bind fun _ => erases_trackDirectory r _ root output
  | false => exact (erases_throw _).bind fun _ => (erases_lift _).bind fun _ =>
      erases_trackDirectory r _ root output

end Renderer

end Scaffold.Tree
