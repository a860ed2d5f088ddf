import Mathlib.Tactic.Lemma
import Scaffold.Proofs.FileSystem.Making
import Scaffold.Proofs.Tree.Confinement
import Scaffold.Proofs.Tree.Working
import Scaffold.Tree.Catalog

/-!
# Looking a template up

* `Problem.Known`: a problem that is not that of an unknown template.
* `knows_renderTree`: rendering a tree ends with no other problems.
* `Catalog.run_find`: how looking a template up ends.
* `ends_renderTemplate`: a template is rendered if its path leads to a directory; otherwise nothing
  is done.
-/

namespace Scaffold.Tree

open FileSystem

variable {r : Renderer} {w : Workspace} {root output p q : Path} {name : String}
  {descend : Path → Path → Work (List Path)}

/-! ## Known problems -/

/-- A problem that is not that of an unknown template. -/
def Problem.Known (problem : Problem) : Prop :=
  ∀ name path, problem ≠ .unknownTemplate name path

/-- What any activity reports is no unknown template. -/
lemma Problem.known_ofFailure (activity : Activity) (subject : Path) (f : Failure) :
    (Problem.ofFailure activity subject f).Known := by
  intro name path
  cases f <;> simp [Problem.ofFailure]

/-- Nor is what copying reports. -/
lemma Problem.known_ofCopyFailure (source target : Path) (f : Failure) :
    (Problem.ofCopyFailure source target f).Known := by
  intro name path
  cases f <;> simp [Problem.ofCopyFailure, Problem.ofFailure]

/-- Nor is a question that the system does not answer. -/
lemma Problem.known_unanswered (f : Failure) : (Problem.unanswered f).Known :=
  fun name path => by simp

/-- Nor is a template that does not render. -/
lemma Problem.known_template (e : Template.RenderError) : (Problem.template e).Known :=
  fun name path => by simp

/-- Work that does not end with the problem of an unknown template. -/
def Work.Knows {α : Type} (x : Work α) : Prop :=
  ∀ w, Ends x w (fun _ _ => True) fun problem _ => problem.Known

namespace Work

variable {α β : Type} {x : Work α} {f : α → Work β}

/-- Nothing is looked up where nothing is done. -/
lemma knows_pure (a : α) : Knows (pure a) :=
  fun _ => ends_pure trivial

/-- Steps in a row look nothing up if none of them does. -/
lemma Knows.bind (hx : Knows x) (hf : ∀ a, Knows (f a)) : Knows (x >>= f) :=
  fun w => Ends.bind ((hx w).mono (fun a w' _ => hf a w') fun _ _ hp => hp)

/-- Telling of what is done looks nothing up. -/
lemma knows_note (e : Event) : Knows (note e) :=
  fun _ => ends_note trivial

/-- A question about the files raises what its failures become. -/
lemma knows_ask {onFailure : Failure → Problem} (h : ∀ f, (onFailure f).Known)
    (question : FileSystem → Except Failure α) : Knows (ask onFailure question) :=
  fun _ => ends_ask (fun _ _ => trivial) fun f _ => h f

/-- An action on the files raises what its failures become. -/
lemma knows_attempt {onFailure : Failure → Problem} (h : ∀ f, (onFailure f).Known)
    (action : FileSystem → Except Failure Unit × FileSystem) : Knows (attempt onFailure action) :=
  fun _ => ends_attempt (fun _ _ => trivial) fun f _ _ => h f

/-- A result raises what its errors become. -/
lemma knows_lift {ε : Type} {onError : ε → Problem} (h : ∀ e, (onError e).Known)
    (x : Except ε α) : Knows (lift onError x) :=
  fun _ => ends_lift (fun _ _ => trivial) fun e _ => h e

/-- Copying looks nothing up. -/
lemma knows_copy [Host] (source target : Path) : Knows (copy source target) := by
  have hcopy := Problem.known_ofFailure .copyFile source
  refine (knows_ask hcopy _).bind fun same => ?_
  cases same with
  | true => exact fun _ => ends_throw (fun name path => by simp)
  | false =>
      simp only [Bool.false_eq_true, if_false]
      exact (knows_ask hcopy _).bind fun content =>
        knows_attempt (Problem.known_ofCopyFailure source target) _

end Work

namespace Renderer

open Work

variable [Host]

/-- Rendering a file looks nothing up. -/
lemma knows_renderFile (r : Renderer) (source target : Path) :
    Knows (r.renderFile source target) := by
  refine Knows.bind ?_ fun template => ?_
  · exact (knows_ask (Problem.known_ofFailure _ _) _).bind fun content =>
      knows_lift (fun _ name path => by simp) _
  · exact (knows_lift Problem.known_template _).bind fun text =>
      (knows_lift Problem.known_unanswered _).bind fun bytes =>
        knows_attempt (Problem.known_ofFailure _ _) _

/-- Taking a file of a tree to its place looks nothing up. -/
lemma knows_visitFile (r : Renderer) (p q : Path) (n : String) : Knows (r.visitFile p q n) := by
  simp only [visitFile]
  refine (knows_lift Problem.known_template _).bind fun x => ?_
  obtain ⟨t, isTemplate⟩ := x
  cases isTemplate with
  | true =>
      exact (knows_note _).bind fun _ => (knows_renderFile r _ _).bind fun _ => knows_pure _
  | false => exact (knows_note _).bind fun _ => (knows_copy _ _).bind fun _ => knows_pure _

/-- A visit looks nothing up if the descent into a directory does not. -/
lemma knows_visit (hdescend : ∀ p q, Knows (descend p q)) (p q : Path) (n : String) :
    Knows (r.visit descend p q n) := by
  by_cases hignored : n ∈ r.conventions.ignoredNames
  · simp only [visit, if_pos hignored]
    exact (knows_note _).bind fun _ => knows_pure _
  · simp only [visit, if_neg hignored]
    refine (knows_ask Problem.known_unanswered _).bind fun isDir => ?_
    cases isDir with
    | false => exact knows_visitFile r p q n
    | true =>
        simp only [if_true]
        refine (knows_lift Problem.known_template _).bind fun t => ?_
        exact (knows_attempt (Problem.known_ofFailure _ _) _).bind fun _ => hdescend _ _

/-- Rendering a directory looks nothing up, at any depth. -/
lemma knows_renderDirectory (r : Renderer) (depth : Nat) (p q : Path) :
    Knows (r.renderDirectory depth p q) := by
  induction depth generalizing p q with
  | zero => exact fun _ => ends_throw (fun name path => by simp)
  | succ depth ih =>
      refine (knows_ask (Problem.known_ofFailure _ _) _).bind fun names w => ?_
      exact ends_visitAll_of_invariant (I := fun _ => True)
        (fun n _ w _ => knows_visit ih p q n w) trivial

/-- Rendering a tree does not end with the problem of an unknown template. -/
theorem knows_renderTree (r : Renderer) (root output : Path) :
    Knows (r.renderTree root output) := by
  have hrest : Knows (do makeDirectories output; r.renderDirectory pathLimit root output) :=
    (knows_attempt (Problem.known_ofFailure _ _) _).bind fun _ => knows_renderDirectory r _ _ _
  refine (knows_ask Problem.known_unanswered _).bind fun isDir => ?_
  cases isDir with
  | true => exact hrest
  | false => exact Knows.bind (fun _ => ends_throw fun name path => by simp) fun _ => hrest

end Renderer

/-! ## Templates by name -/

section Catalog

variable [Host]

namespace Catalog

/-- How looking a template up ends: it is found if its path leads to a directory, and unknown if not. -/
lemma run_find (w : Workspace) (root : Path) (name : String) :
    (find root name).run w =
      match Host.isDirectory w.files (pathOf root name) with
      | .ok true => .ok (pathOf root name) w
      | .ok false => .error (.unknownTemplate name (pathOf root name)) w
      | .error f => .error (.unanswered f) w := by
  cases hdir : Host.isDirectory w.files (pathOf root name) with
  | error f => exact Work.run_bind_of_error (Work.run_ask_of_error hdir)
  | ok isDir =>
      have hask : (Work.ask .unanswered (Host.isDirectory · (pathOf root name))).run w =
          .ok isDir w := Work.run_ask_of_ok hdir
      refine (Work.run_bind_of_ok hask).trans ?_
      cases isDir <;> rfl

/-- A template is found if and only if its path leads to a directory. -/
lemma run_find_eq_ok_iff :
    (find root name).run w = .ok (pathOf root name) w ↔
      Host.isDirectory w.files (pathOf root name) = .ok true := by
  rw [run_find]
  split <;> simp_all

end Catalog

/-- The directory of a template is found if its path leads to a directory. -/
lemma ends_find {Q : Path → Workspace → Prop} {R : Problem → Workspace → Prop}
    (hfound : ∀ src, w.files.find (Catalog.pathOf root name) = .ok (src, .directory) →
      Q (Catalog.pathOf root name) w)
    (hunknown : Host.isDirectory w.files (Catalog.pathOf root name) = .ok false →
      R (.unknownTemplate name (Catalog.pathOf root name)) w)
    (hunanswered : ∀ f, Host.isDirectory w.files (Catalog.pathOf root name) = .error f →
      R (.unanswered f) w) : Ends (Catalog.find root name) w Q R := by
  refine Ends.bind (Work.ends_ask (fun isDir hdir => ?_) hunanswered)
  cases isDir with
  | true =>
      obtain ⟨src, hfind⟩ := find_of_isDirectory (Host.isDirectory_eq_ok hdir)
      simp only [if_true]
      exact ends_pure (hfound src hfind)
  | false =>
      simp only [Bool.false_eq_true, if_false]
      exact ends_throw (hunknown hdir)

/-- A template is rendered if its path leads to a directory; otherwise nothing is done. -/
theorem ends_renderTemplate {Q : List Path → Workspace → Prop} {R : Problem → Workspace → Prop}
    (hrender : ∀ src, w.files.find (Catalog.pathOf root name) = .ok (src, .directory) →
      Ends (r.renderTree (Catalog.pathOf root name) output)
        { w with events := w.events ++ [.usingTemplate name output] } Q R)
    (hunknown : Host.isDirectory w.files (Catalog.pathOf root name) = .ok false →
      R (.unknownTemplate name (Catalog.pathOf root name)) w)
    (hunanswered : ∀ f, Host.isDirectory w.files (Catalog.pathOf root name) = .error f →
      R (.unanswered f) w) :
    Ends (renderTemplate r root name output) w Q R := by
  refine Ends.bind (ends_find (fun src hfind => ?_) hunknown hunanswered)
  exact Ends.bind (Work.ends_note (hrender src hfind))

end Catalog

end Scaffold.Tree
