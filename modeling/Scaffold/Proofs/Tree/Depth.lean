import Mathlib.Tactic.Lemma
import Scaffold.Proofs.Tree.Adding

/-!
# How deep a rendering goes

A rendering is given a depth. With every directory that it enters the path of that directory gets
longer, and no path can be as long as the depth that a tree is rendered to. So the depth is never what
stops a rendering: without any depth given it would do the same, and come to an end.

* `utf8ByteSize_toString_child`: the path of an entry is longer than that of its directory.
* `renderDirectory_succ`: below a path that is long enough, one more level makes no difference.
* `renderDirectory_deeper`: a rendering that may go deeper than it does now does the same.
-/

namespace Scaffold

/-- The path of an entry is longer than that of its directory by the name and what stands before
it. -/
lemma Path.utf8ByteSize_toString_child {p : Path} (h : p.names ≠ []) (n : String) :
    (p.child n).toString.utf8ByteSize = p.toString.utf8ByteSize + n.utf8ByteSize + 1 := by
  have hchild : p.child n = Path.below ⟨p.anchor, []⟩ (p.names ++ [n]) := rfl
  have hself : p = Path.below ⟨p.anchor, []⟩ p.names := rfl
  have hlong := Path.utf8ByteSize_toString_below ⟨p.anchor, []⟩
    (List.append_ne_nil_of_left_ne_nil h [n])
  have hshort := Path.utf8ByteSize_toString_below ⟨p.anchor, []⟩ h
  rw [← hchild, extent_append] at hlong
  rw [← hself] at hshort
  simp only [extent] at hlong hshort
  omega

namespace Tree.Renderer

open FileSystem Work

variable {r : Renderer} {p q : Path} {l : Location} {n : String} {names : List String} {depth : Nat}
  {w : Workspace}

/-! ## Steps that have been taken -/

section steps

variable {α : Type} {a : α} {w' : Workspace} {onFailure : Failure → Problem}

/-- A question that is answered has changed nothing. -/
lemma eq_of_run_ask {question : FileSystem → Except Failure α}
    (h : (ask onFailure question).run w = .ok a w') : w' = w ∧ question w.files = .ok a := by
  have hends : Ends (ask onFailure question) w (fun a w' => w' = w ∧ question w.files = .ok a)
      fun _ _ => True := ends_ask (fun _ hquestion => ⟨rfl, hquestion⟩) fun _ _ => trivial
  exact hends.of_run_ok h

/-- A result that is taken over has changed nothing. -/
lemma eq_of_run_lift {ε : Type} {onError : ε → Problem} {x : Except ε α}
    (h : (lift onError x).run w = .ok a w') : w' = w := by
  have hends : Ends (lift onError x) w (fun _ w' => w' = w) fun _ _ => True :=
    ends_lift (fun _ _ => rfl) fun _ _ => trivial
  exact hends.of_run_ok h

/-- An action that succeeds has left the files that it gives. -/
lemma eq_of_run_attempt {u : Unit} {action : FileSystem → Except Failure Unit × FileSystem}
    (h : (attempt onFailure action).run w = .ok u w') : action w.files = (.ok (), w'.files) := by
  have hends : Ends (attempt onFailure action) w (fun _ w' => action w.files = (.ok (), w'.files))
      fun _ _ => True := ends_attempt (fun _ haction => haction) fun _ _ _ => trivial
  exact hends.of_run_ok h

/-- Work that goes on in the same way after every answer of a step goes on in the same way. -/
lemma run_bind_congr {β : Type} {x : Work α} {f g : α → Work β}
    (h : ∀ a w', x.run w = .ok a w' → (f a).run w' = (g a).run w') :
    (x >>= f).run w = (x >>= g).run w := by
  cases hx : x.run w with
  | ok a w' => rw [run_bind_of_ok hx, run_bind_of_ok hx, h a w' hx]
  | error e w' => rw [run_bind_of_error hx, run_bind_of_error hx]

end steps

/-! ## Visits -/

/-- Visits that do the same for every name do the same for all of them in turn. -/
lemma visitAll_congr {visit visit' : String → Work (List Path)}
    (h : ∀ n ∈ names, visit n = visit' n) : visitAll visit names = visitAll visit' names := by
  induction names with
  | nil => rfl
  | cons n names ih =>
      obtain ⟨hfirst, hrest⟩ := List.forall_mem_cons.mp h
      rw [visitAll, visitAll, hfirst, ih hrest]

variable [Host]

/-- A visit enters an entry only if its path leads to a directory. -/
lemma visit_congr {descend descend' : Path → Path → Work (List Path)}
    (h : ∀ q w l, w.files.find (p.child n) = .ok (l, .directory) →
      (descend (p.child n) q).run w = (descend' (p.child n) q).run w) :
    r.visit descend p q n = r.visit descend' p q n := by
  funext w
  unfold visit
  by_cases hignored : n ∈ r.conventions.ignoredNames
  · simp only [if_pos hignored]
  simp only [if_neg hignored]
  refine run_bind_congr fun isDir w₁ hask => ?_
  obtain ⟨rfl, hdir⟩ := eq_of_run_ask hask
  cases isDir with
  | false => rfl
  | true =>
      obtain ⟨l, hfind⟩ := find_of_isDirectory (Host.isDirectory_eq_ok hdir)
      refine run_bind_congr fun t w₂ hlift => run_bind_congr fun _ w₃ hmake => h _ _ l ?_
      obtain rfl := eq_of_run_lift hlift
      have hmade := adds_of_makeDirectories (Host.makeDirectories_eq_ok (eq_of_run_attempt hmake))
      exact find_of_grows (grows_of_gains hmade.gained) hfind

/-! ## One more level -/

/-- Below a directory whose path is as long as the limit, but for the depth that is left, one more
level makes no difference. -/
lemma renderDirectory_succ (hp : p.names ≠ [])
    (hdepth : pathLimit ≤ depth + p.toString.utf8ByteSize)
    (hfind : w.files.find p = .ok (l, .directory)) :
    (r.renderDirectory (depth + 1) p q).run w = (r.renderDirectory depth p q).run w := by
  induction depth generalizing p q w l with
  | zero =>
      -- a path as long as this leads nowhere
      obtain ⟨-, hshort, -⟩ := locate_eq_ok_iff.mp (find_eq_ok_iff.mp hfind)
      omega
  | succ depth ih =>
      have hvisit : r.visit (r.renderDirectory (depth + 1)) p q =
          r.visit (r.renderDirectory depth) p q := by
        funext n
        refine visit_congr fun q' w' l' hfind' => ih ?_ ?_ hfind'
        · simp [Path.child]
        · rw [Path.utf8ByteSize_toString_child hp]
          omega
      rw [renderDirectory, renderDirectory, hvisit]

/-- At the root of a tree, where the path may be as short as can be, the names of the entries make up
for it. -/
lemma renderDirectory_root_succ (hdepth : pathLimit ≤ depth + 1)
    (hfind : w.files.find p = .ok (l, .directory)) (hnames : ∀ n ∈ w.files.children l, n ≠ "") :
    (r.renderDirectory (depth + 1 + 1) p q).run w = (r.renderDirectory (depth + 1) p q).run w := by
  rw [renderDirectory, renderDirectory]
  refine run_bind_congr fun names w' hlist => ?_
  obtain ⟨rfl, hlisted⟩ := eq_of_run_ask hlist
  obtain rfl := Except.ok.inj ((list_of_find hfind).symm.trans (Host.list_eq_ok hlisted))
  refine congrArg (·.run w') (visitAll_congr fun n hn => ?_)
  refine visit_congr fun q' w'' l' hfind' => renderDirectory_succ ?_ ?_ hfind'
  · simp [Path.child]
  · have hsize : n.utf8ByteSize ≠ 0 :=
      fun hzero => hnames n hn (String.utf8ByteSize_eq_zero_iff.mp hzero)
    have htext := p.utf8ByteSize_toString_below (List.cons_ne_nil n [])
    have hchild : p.child n = p.below [n] := rfl
    simp only [Path.extent] at htext
    rw [hchild]
    omega

/-- **The depth of a rendering.** A tree is rendered to a depth that no rendering comes to: one that may
go deeper does the same. -/
theorem renderDirectory_deeper (hfind : w.files.find p = .ok (l, .directory))
    (hnames : ∀ n ∈ w.files.children l, n ≠ "") (k : Nat) :
    (r.renderDirectory (pathLimit + k) p q).run w = (r.renderDirectory pathLimit p q).run w := by
  induction k with
  | zero => rfl
  | succ k ih =>
      have hdepth : pathLimit + k = 4095 + k + 1 := by
        rw [pathLimit]
        omega
      rw [← ih, ← Nat.add_assoc, hdepth]
      exact renderDirectory_root_succ (by omega) hfind hnames

end Tree.Renderer

end Scaffold
