import Mathlib.Tactic.Lemma
import Scaffold.Proofs.Tree.Destination

/-!
# What a rendering notes

The visit of a file notes one event, before the file is read. So the events of a rendering say which
files it has come to, and where these have been made.

* `Event.source?`: the entry that an event is about.
* `events_visitFile`: what the visit of a file notes.
* `Tells`: the events that have been noted name the paths that are answered with.
  `tells_renderDirectory` says that this is so of every rendering.
-/

namespace Scaffold.Tree

/-- The path of the entry that an event tells of, if it tells of one. -/
def Event.source? : Event → Option Path
  | .skipping entry => some entry
  | .rendering source _ | .copying source _ => some source
  | .usingTemplate _ _ | .wrote _ _ => none

namespace Renderer

open Work

variable {r : Renderer} {n : String} {names : List String} {paths paths' : List Path}
  {w w' : Workspace}

/-! ## Files -/

section Files

variable [Host]

/-- Rendering a file notes nothing. -/
lemma events_renderFile (r : Renderer) (p q : Path) (w : Workspace) :
    Ends (r.renderFile p q) w (fun _ w' => w'.events = w.events) fun _ w' => w'.events = w.events := by
  unfold renderFile readTemplate writeText
  refine Ends.bind (Ends.bind (ends_ask (fun _ _ => ?_) fun _ _ => rfl))
  refine ends_lift (fun _ _ => ?_) fun _ _ => rfl
  refine Ends.bind (ends_lift (fun _ _ => ?_) fun _ _ => rfl)
  refine Ends.bind (ends_lift (fun _ _ => ?_) fun _ _ => rfl)
  exact ends_attempt (fun _ _ => rfl) fun _ _ _ => rfl

/-- Copying a file notes nothing. -/
lemma events_copy (p q : Path) (w : Workspace) :
    Ends (copy p q) w (fun _ w' => w'.events = w.events) fun _ w' => w'.events = w.events := by
  unfold copy
  refine Ends.bind (ends_ask (fun same _ => ?_) fun _ _ => rfl)
  cases same with
  | true => exact Ends.bind (ends_throw rfl)
  | false =>
      refine Ends.bind (ends_ask (fun _ _ => ?_) fun _ _ => rfl)
      exact ends_attempt (fun _ _ => rfl) fun _ _ _ => rfl

/-- The visit of a file notes one event, of the file and of the path at which it is made, unless it fails
before. -/
lemma events_visitFile (r : Renderer) (p q : Path) (n : String) (w : Workspace) :
    Ends (r.visitFile p q n) w
      (fun paths w' => ∃ event target, event.source? = some (p.child n) ∧
        event.target? = some target ∧ w'.events = w.events ++ [event] ∧ paths = [target])
      (fun _ w' => w'.events = w.events ∨
        ∃ event, event.source? = some (p.child n) ∧ w'.events = w.events ++ [event]) := by
  unfold visitFile
  refine Ends.bind (ends_lift (fun x _ => ?_) fun _ _ => .inl rfl)
  obtain ⟨t, isTemplate⟩ := x
  cases isTemplate with
  | true =>
      refine Ends.bind (ends_note (Ends.bind ?_))
      refine (events_renderFile r _ _ _).mono (fun _ w' hw' => ?_) fun _ w' hw' => ?_
      · exact ends_pure ⟨_, _, rfl, rfl, hw', rfl⟩
      · exact .inr ⟨_, rfl, hw'⟩
  | false =>
      refine Ends.bind (ends_note (Ends.bind ?_))
      refine (events_copy _ _ _).mono (fun _ w' hw' => ?_) fun _ w' hw' => ?_
      · exact ends_pure ⟨_, _, rfl, rfl, hw', rfl⟩
      · exact .inr ⟨_, rfl, hw'⟩

end Files

/-! ## Renderings -/

/-- The paths that are answered with are the targets of the events that have been noted. -/
def Tells (w : Workspace) (paths : List Path) (w' : Workspace) : Prop :=
  ∃ new, w'.events = w.events ++ new ∧ new.filterMap Event.target? = paths

/-- What is told first and what is told next is told together. -/
lemma Tells.trans {w'' : Workspace} (h : Tells w paths w') (h' : Tells w' paths' w'') :
    Tells w (paths ++ paths') w'' := by
  obtain ⟨new, hnew, rfl⟩ := h
  obtain ⟨new', hnew', rfl⟩ := h'
  exact ⟨new ++ new', by rw [hnew', hnew, List.append_assoc], List.filterMap_append⟩

/-- Where nothing more is told, nothing has been written. -/
lemma tells_of_events (h : w'.events = w.events) : Tells w [] w' :=
  ⟨[], by rw [h, List.append_nil], rfl⟩

/-- Visits in a row tell of what they write if each of them does. -/
lemma tells_visitAll {visit : String → Work (List Path)}
    (hvisit : ∀ n w, Ends (visit n) w (Tells w) fun _ _ => True) (w : Workspace) :
    Ends (visitAll visit names) w (Tells w) fun _ _ => True := by
  induction names generalizing w with
  | nil => exact ends_pure (tells_of_events rfl)
  | cons n ns ih =>
      refine Ends.bind ((hvisit n w).mono (fun first w₁ hfirst => ?_) fun _ _ h => h)
      refine Ends.bind ((ih w₁).mono (fun rest w₂ hrest => ?_) fun _ _ h => h)
      exact ends_pure (hfirst.trans hrest)

/-- A rendering notes the paths at which files are made. -/
lemma tells_renderDirectory [Host] (r : Renderer) (depth : Nat) (p q : Path) (w : Workspace) :
    Ends (r.renderDirectory depth p q) w (Tells w) fun _ _ => True := by
  induction depth generalizing p q w with
  | zero => exact ends_throw trivial
  | succ depth ih =>
      refine Ends.bind (ends_ask (fun names _ => tells_visitAll (fun n w => ?_) w) fun _ _ => trivial)
      by_cases hignored : n ∈ r.conventions.ignoredNames
      · simp only [visit, if_pos hignored]
        exact Ends.bind (ends_note (ends_pure ⟨[_], rfl, rfl⟩))
      simp only [visit, if_neg hignored]
      refine Ends.bind (ends_ask (fun isDir _ => ?_) fun _ _ => trivial)
      cases isDir with
      | false =>
          refine (events_visitFile r p q n w).mono ?_ fun _ _ _ => trivial
          rintro _ w' ⟨event, target, -, htarget, hevents, rfl⟩
          exact ⟨[event], hevents, by simp [htarget]⟩
      | true =>
          refine Ends.bind (ends_lift (fun t _ => ?_) fun _ _ => trivial)
          exact Ends.bind (ends_attempt (fun _ _ => ih _ _ _) fun _ _ _ => trivial)

end Renderer

end Scaffold.Tree
