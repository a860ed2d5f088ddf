import Mathlib.Tactic.Lemma
import Scaffold.Proofs.FileSystem.Rooted
import Scaffold.Proofs.Tree.Image
import Scaffold.Proofs.Tree.Stopping

/-!
# A rendering that fails

* `ends_renderTree_hosted`: a tree is rendered by making all visits, or the first of them.
  `ends_renderTree` says so of the ample host.
* `Unlisted`: the entries that come next are not known.
* `renderTree_fails_fast`: a rendering that fails leaves what the visits before the failing one have
  made, and nothing else; without a tree to render it leaves everything as it was.
* `renderTree_leaves_part`: what is left where the disk is full.
-/

namespace Scaffold.Tree.Renderer

open FileSystem Work

variable {r : Renderer} {fs₁ : FileSystem} {w : Workspace} {root output : Path} {src out : Location}
  {forest : Forest}

section Hosted

variable [Host]

/-- A tree is rendered by making all visits of its entries, or the first of them; none is made if the
host does not list the tree. -/
theorem ends_renderTree_hosted (hdir : Host.isDirectory w.files root = .ok true)
    (hroot : w.files.find root = .ok (src, .directory))
    (hmade : Host.makeDirectories w.files true output = (.ok (), fs₁))
    (hout : fs₁.find output = .ok (out, .directory)) (hholds : fs₁.Holds src forest)
    (houtside : ∀ place, ¬ src <+: out ++ place)
    (hplain : ∀ v ∈ r.visits forest, ∀ t, r.targetName? v = some t → IsPlainName t)
    (hlinks : ∀ v ∈ r.visits forest, ∀ place, r.place? v = some place →
      ∀ target, fs₁.get? (out ++ place) ≠ some (.link target)) :
    Ends (r.renderTree root output) w (fun _ w' => Made r out fs₁ (r.visits forest) w'.files)
      (fun _ w' => StopsIn r root output out fs₁ (r.visits forest) w'.files ∨
        w'.files = fs₁ ∧ ∃ x, Host.refuses .list fs₁ root = some x) := by
  obtain ⟨made, hprepares⟩ := makeDirectories_prepares (Host.makeDirectories_eq_ok hmade)
  have hsource : fs₁.find root = .ok (src, .directory) := find_of_grows hprepares.grows hroot
  refine ends_renderTree_of_made hdir hmade ?_
  refine ends_renderDirectory_of_listed hsource (fun _ x hx => .inr ⟨rfl, x, hx⟩) ?_
  have hunder : Underway r fs₁ root output src out [] [] forest :=
    { source := by simpa using hsource
      target := by simpa using hout
      holds := by simpa using hholds.entries
      no_link := hlinks }
  have hdepth : pathLimit ≤ 4095 + 1 + (root.below []).names.length := by
    rw [pathLimit]
    omega
  have hall := ends_visitAll (w := { w with files := fs₁ }) houtside hunder rfl hdepth hplain
  rw [Path.below_nil, Path.below_nil, ← hholds.names] at hall
  exact hall.mono (fun _ _ hmade => hmade) fun _ _ hstops => .inl hstops

/-- Where the host does not say that there is a tree to render, rendering fails and changes nothing. -/
lemma exists_run_renderTree_of_not_directory (h : Host.isDirectory w.files root ≠ .ok true) :
    ∃ p, (r.renderTree root output).run w = .error p w := by
  have hends : Ends (r.renderTree root output) w (fun _ _ => False) (fun _ w' => w' = w) := by
    refine Ends.bind (ends_ask (fun isDir hdir => ?_) fun _ _ => rfl)
    cases isDir with
    | true => exact absurd hdir h
    | false => exact Ends.bind (ends_throw rfl)
  obtain ⟨p, w', hrun, rfl⟩ := hends.exists_run_error
  exact ⟨p, hrun⟩

/-- A tree is rendered into a directory that is there by making all visits, if the rendering succeeds. -/
lemma ends_renderTree_of_success (hroot : w.files.find root = .ok (src, .directory))
    (hout : w.files.find output = .ok (out, .directory)) (hholds : w.files.Holds src forest)
    (houtside : ∀ place, ¬ src <+: out ++ place)
    (hplain : ∀ v ∈ r.visits forest, ∀ t, r.targetName? v = some t → IsPlainName t)
    (hlinks : ∀ v ∈ r.visits forest, ∀ place, r.place? v = some place →
      ∀ target, w.files.get? (out ++ place) ≠ some (.link target)) :
    Ends (r.renderTree root output) w
      (fun _ w' => Made r out w.files (r.visits forest) w'.files) fun _ _ => True := by
  by_cases hdir : Host.isDirectory w.files root = .ok true
  · obtain ⟨outcome, fs', hmake⟩ : ∃ outcome fs', Host.makeDirectories w.files true output =
        (outcome, fs') := ⟨_, _, rfl⟩
    cases outcome with
    | ok u =>
        have hsame := (makeDirectories_of_find hout).symm.trans (Host.makeDirectories_eq_ok hmake)
        obtain rfl := (Prod.mk.inj hsame).2
        exact (ends_renderTree_hosted hdir hroot hmake hout hholds houtside hplain hlinks).mono
          (fun _ _ h => h) fun _ _ _ => trivial
    | error f =>
        refine Ends.bind (ends_ask (fun isDir hdir' => ?_) fun _ _ => trivial)
        obtain rfl : true = isDir := Except.ok.inj (hdir.symm.trans hdir')
        simp only [if_true]
        refine Ends.bind (ends_attempt (fun fs₂ hmake' => ?_) fun _ _ _ => trivial)
        cases hmake.symm.trans hmake'
  · obtain ⟨p, hrun⟩ := exists_run_renderTree_of_not_directory hdir
    exact ends_of_run_error hrun trivial

end Hosted

/-- On the ample host, a tree is rendered by making all visits of its entries, or those before one that
cannot be made. -/
theorem ends_renderTree (hroot : w.files.find root = .ok (src, .directory))
    (hmade : w.files.makeDirectories true output = (.ok (), fs₁))
    (hout : fs₁.find output = .ok (out, .directory)) (hholds : fs₁.Holds src forest)
    (houtside : ∀ place, ¬ src <+: out ++ place)
    (hplain : ∀ v ∈ r.visits forest, ∀ t, r.targetName? v = some t → IsPlainName t)
    (hlinks : ∀ v ∈ r.visits forest, ∀ place, r.place? v = some place →
      ∀ target, fs₁.get? (out ++ place) ≠ some (.link target)) :
    Ends (r.renderTree root output) w (fun _ w' => Made r out fs₁ (r.visits forest) w'.files)
      (fun _ w' => StopsIn r root output out fs₁ (r.visits forest) w'.files) := by
  have hdir : Host.isDirectory w.files root = .ok true := isDirectory_of_find hroot
  refine (ends_renderTree_hosted hdir hroot hmade hout hholds houtside hplain hlinks).mono
    (fun _ _ h => h) ?_
  rintro _ _ (hstops | ⟨-, x, hx⟩)
  · exact hstops
  · cases hx

/-- A host whose disk is nearly full: it takes no more than two bytes of a file. -/
@[reducible]
def fullDisk : Host :=
  { Host.ample with
    breaksOff := fun _ _ content => if content.size ≤ 2 then none else some (2, .fault .noSpace) }

/-- A tree of two files that are copied, of which the first is too long for `fullDisk`, and an output
directory with an older version of it. -/
def longFiles : FileSystem where
  entries := [(["t"], .directory), (["t", "a"], .file "123".toByteArray),
    (["t", "b"], .file "4".toByteArray), (["o"], .directory), (["o", "a"], .file "old".toByteArray)]

/-- Where the disk is full, the destination of the failing entry is neither as it was nor as it should be:
the first part of the file is there. The entry that follows has not been copied. -/
theorem renderTree_leaves_part :
    Ends (@Renderer.renderTree fullDisk smallRenderer ⟨.root, ["t"]⟩ ⟨.root, ["o"]⟩) ⟨longFiles, []⟩
      (fun _ _ => False)
      (fun p w => p.message = "Failed to copy /t/a: [Errno 28] No space left on device: " ++
          "'/t/a' -> '/o/a'" ∧
        w.files.get? ["o", "a"] = some (.file "12".toByteArray) ∧
        w.files.get? ["o", "b"] = none) := by
  have hnames : longFiles.children ["t"] = ["a", "b"] := children_of_perm (.refl _) (by decide)
  refine @ends_renderTree_of_made _ longFiles _ _ fullDisk _ _ _ rfl rfl ?_
  refine @ends_renderDirectory_of_listed _ fullDisk _ _ _ _ _ ["t"] _ rfl (fun _ x hx => ?_) ?_
  · cases hx
  rw [hnames]
  decide +kernel

end Scaffold.Tree.Renderer
