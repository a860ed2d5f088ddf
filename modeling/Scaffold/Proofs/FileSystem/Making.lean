import Mathlib.Tactic.Lemma
import Scaffold.Proofs.FileSystem.Finding

/-!
# Making a directory with those above it

* `Prepares`: new directories have been made at places that a path passes, and nothing else has
  changed.
* `makeDirectories_prepares`: this is all that making a directory does, whether it succeeds or not.
* `find_of_makeDirectories`: when it succeeds, the path leads to a directory.
-/

namespace Scaffold.FileSystem

variable {fs fs' fs'' : FileSystem} {p q : Path} {l : Location} {made : List Location}
  {existingOk : Bool} {outcome : Except Failure Unit}

/-! ## New directories on the way of a path -/

/-- One path passes where another one leads. -/
def Passes (p q : Path) : Prop :=
  q.anchor = p.anchor ∧ q.names <+: p.names

/-- A path passes itself. -/
lemma Passes.refl (p : Path) : Passes p p :=
  ⟨rfl, List.prefix_refl _⟩

/-- A path passes all that its parent passes. -/
lemma Passes.of_parent (h : Passes p.parent q) : Passes p q :=
  ⟨h.1, h.2.trans (List.dropLast_prefix _)⟩

/-- Directories as entries at their locations. -/
def asDirectories (made : List Location) : List (Location × Entry) :=
  made.map (·, .directory)

/-- New directories have been made at places that a path passes, and nothing else has changed. -/
structure Prepares (fs : FileSystem) (p : Path) (fs' : FileSystem) (made : List Location) :
    Prop where
  files : fs' = fs.overlay (asDirectories made)
  new : ∀ l ∈ made, fs.get? l = none
  passed : ∀ l ∈ made, ∃ q, Passes p q ∧ fs'.find q = .ok (l, .directory)

/-- Nothing has to be made. -/
lemma Prepares.refl (fs : FileSystem) (p : Path) : Prepares fs p fs [] :=
  ⟨rfl, by simp, by simp⟩

/-- What is made for the parent of a path is made for the path. -/
lemma Prepares.of_parent (h : Prepares fs p.parent fs' made) : Prepares fs p fs' made where
  files := h.files
  new := h.new
  passed l hl := by
    obtain ⟨q, hq, hfind⟩ := h.passed l hl
    exact ⟨q, hq.of_parent, hfind⟩

/-- New directories leave all there is where it is. -/
lemma takes_asDirectories (hnew : ∀ l ∈ made, fs.get? l = none) :
    fs.Takes (asDirectories made) where
  coherent := by
    intro x hx y hy _
    obtain ⟨l, -, rfl⟩ := List.mem_map.mp hx
    obtain ⟨l', -, rfl⟩ := List.mem_map.mp hy
    rfl
  present := by
    intro x hx e he
    obtain ⟨l, hl, rfl⟩ := List.mem_map.mp hx
    rw [hnew l hl] at he
    cases he
  no_link := by
    intro x hx
    obtain ⟨l, -, rfl⟩ := List.mem_map.mp hx
    simp [Entry.kind]
  not_root := by
    intro x hx hroot
    obtain ⟨l, hl, rfl⟩ := List.mem_map.mp hx
    have hnone := hnew l hl
    rw [show l = [] from hroot, get?_nil] at hnone
    cases hnone

/-- Files grow by the directories that are made. -/
lemma Prepares.grows (h : Prepares fs p fs' made) : Grows fs fs' := by
  rw [h.files]
  exact (takes_asDirectories h.new).grows_overlay fun _ hy => hy

/-- What lies at a location that was not made is what lay there before. -/
lemma Prepares.get?_of_notMem (h : Prepares fs p fs' made) (hl : l ∉ made) :
    fs'.get? l = fs.get? l := by
  rw [h.files]
  refine get?_overlay_of_notMem fun x hx heq => ?_
  obtain ⟨l', hl', rfl⟩ := List.mem_map.mp hx
  exact hl (heq ▸ hl')

/-- The directories that are made are there. -/
lemma Prepares.get?_of_mem (h : Prepares fs p fs' made) (hl : l ∈ made) :
    fs'.get? l = some .directory := by
  have hroot : l ≠ [] := by
    rintro rfl
    have hnone := h.new [] hl
    rw [get?_nil] at hnone
    cases hnone
  rw [h.files]
  refine get?_overlay_of_mem hroot (List.mem_map.mpr ⟨l, hl, rfl⟩) fun x hx _ => ?_
  obtain ⟨l', -, rfl⟩ := List.mem_map.mp hx
  rfl

/-! ## Making one directory -/

/-- A directory that is made is new, and the path leads to it. -/
lemma makeDirectory_eq_ok (h : fs.makeDirectory p = .ok fs') :
    ∃ l, fs.get? l = none ∧ fs' = fs.deposit (l, .directory) ∧
      fs'.find p = .ok (l, .directory) := by
  unfold makeDirectory make at h
  cases hlocate : fs.locate false p with
  | error f => simp [hlocate, bind, Except.bind] at h
  | ok r =>
      cases r with
      | present l e => simp [hlocate, bind, Except.bind] at h
      | absent d n =>
          simp only [hlocate, bind, Except.bind, Except.ok.injEq] at h
          obtain ⟨hnull, hshort, hstart, hwalk⟩ := locate_eq_ok_iff.mp hlocate
          have hwalks := walks_of_walk hwalk
          have hnone : fs.get? (d ++ [n]) = none := get?_of_walks_absent hwalks
          have hgrows : Grows fs (fs.put (d ++ [n]) .directory) := .put hnone .directory
          refine ⟨d ++ [n], hnone, ?_, ?_⟩
          · rw [deposit_directory_of_absent hnone, h]
          · subst h
            rw [find_eq_ok_iff, locate_eq_ok_iff, hgrows.workingDirectory]
            exact ⟨hnull, hshort, fun habs => hgrows.directory _ (hstart habs),
              walk_of_walks (walks_put_absent hwalks)⟩

/-- One more directory made at the end of the path. -/
lemma Prepares.makeDirectory (h : Prepares fs p fs' made)
    (hmake : fs'.makeDirectory p = .ok fs'') :
    (∃ made, Prepares fs p fs'' made) ∧ ∃ l, fs''.find p = .ok (l, .directory) := by
  obtain ⟨l, hnone, rfl, hfind⟩ := makeDirectory_eq_ok hmake
  have hl : l ∉ made := by
    intro hmem
    rw [h.get?_of_mem hmem] at hnone
    cases hnone
  have hgrows : Grows fs' (fs'.deposit (l, .directory)) := by
    rw [deposit_directory_of_absent hnone]
    exact .put hnone .directory
  refine ⟨⟨made ++ [l], ?_, ?_, ?_⟩, l, hfind⟩
  · have hlist : asDirectories (made ++ [l]) = asDirectories made ++ [(l, .directory)] := by
      simp [asDirectories]
    rw [hlist, overlay_append, ← h.files, overlay_cons, overlay_nil]
  · intro l' hl'
    rcases List.mem_append.mp hl' with hold | hlast
    · exact h.new l' hold
    · obtain rfl := List.mem_singleton.mp hlast
      rw [← h.get?_of_notMem hl]
      exact hnone
  · intro l' hl'
    rcases List.mem_append.mp hl' with hold | hlast
    · obtain ⟨q, hq, hfind'⟩ := h.passed l' hold
      exact ⟨q, hq, find_of_grows hgrows hfind'⟩
    · obtain rfl := List.mem_singleton.mp hlast
      exact ⟨p, .refl p, hfind⟩

/-- A path of which the system says that it leads to a directory does so. -/
lemma find_of_isDirectory (h : fs.isDirectory p = .ok true) :
    ∃ l, fs.find p = .ok (l, .directory) := by
  unfold isDirectory ask at h
  cases hfind : fs.find p with
  | ok x =>
      obtain ⟨l, e⟩ := x
      rw [hfind] at h
      have he : e = .directory := by simpa using h
      exact ⟨l, by rw [he]⟩
  | error f =>
      rw [hfind] at h
      cases hf : meansAbsent f with
      | true => simp [hf] at h
      | false => simp [hf] at h

/-- A failure is excused only where there is a directory, and nothing changes then. -/
lemma excuse_spec {f : Failure} (h : fs.excuse existingOk p f = (outcome, fs')) :
    fs' = fs ∧ (outcome = .ok () → ∃ l, fs.find p = .ok (l, .directory)) := by
  unfold excuse at h
  cases f with
  | nullCharacter | brokenOff _ | unencodable _ | tooDeep =>
      obtain ⟨rfl, rfl⟩ := Prod.mk.inj h
      exact ⟨rfl, by simp⟩
  | system fault q =>
      cases existingOk with
      | false =>
          obtain ⟨rfl, rfl⟩ := Prod.mk.inj h
          exact ⟨rfl, by simp⟩
      | true =>
          cases hdir : fs.isDirectory p with
          | error f' =>
              simp only [hdir, if_true, Prod.mk.injEq] at h
              obtain ⟨rfl, rfl⟩ := h
              exact ⟨rfl, by simp⟩
          | ok isDir =>
              cases isDir with
              | true =>
                  simp only [hdir, if_true, Prod.mk.injEq] at h
                  exact ⟨h.2.symm, fun _ => find_of_isDirectory hdir⟩
              | false =>
                  simp only [hdir, if_true, Prod.mk.injEq] at h
                  obtain ⟨rfl, rfl⟩ := h
                  exact ⟨rfl, by simp⟩

/-- The last directory made, after those above it may have been made. -/
lemma Prepares.makeLast (h : Prepares fs p fs' made)
    (hlast : fs'.makeLast existingOk p = (outcome, fs'')) :
    (∃ made, Prepares fs p fs'' made) ∧
      (outcome = .ok () → ∃ l, fs''.find p = .ok (l, .directory)) := by
  unfold FileSystem.makeLast at hlast
  split at hlast
  · rename_i hmake
    obtain ⟨-, rfl⟩ := Prod.mk.inj hlast
    obtain ⟨hprepares, hfind⟩ := h.makeDirectory hmake
    exact ⟨hprepares, fun _ => hfind⟩
  · obtain ⟨rfl, rfl⟩ := Prod.mk.inj hlast
    exact ⟨⟨made, h⟩, by simp⟩
  · obtain ⟨rfl, hfind⟩ := excuse_spec hlast
    exact ⟨⟨made, h⟩, hfind⟩

/-! ## Making those above it -/

/-- Each directory made on the way to another one is new, and at the end of a success stands the
directory that the path leads to. -/
lemma makeWithParents_prepares {k : Nat}
    (h : makeWithParents k fs existingOk p = (outcome, fs')) :
    (∃ made, Prepares fs p fs' made) ∧
      (outcome = .ok () → ∃ l, fs'.find p = .ok (l, .directory)) := by
  induction k generalizing existingOk p outcome fs' with
  | zero => exact (Prepares.refl fs p).makeLast h
  | succ k ih =>
      unfold makeWithParents at h
      split at h
      · rename_i hmake
        obtain ⟨-, rfl⟩ := Prod.mk.inj h
        obtain ⟨hprepares, hfind⟩ := (Prepares.refl fs p).makeDirectory hmake
        exact ⟨hprepares, fun _ => hfind⟩
      · by_cases hnames : p.names = []
        · rw [if_pos hnames] at h
          obtain ⟨rfl, rfl⟩ := Prod.mk.inj h
          exact ⟨⟨[], .refl fs p⟩, by simp⟩
        · rw [if_neg hnames] at h
          split at h
          · rename_i hparents
            obtain ⟨⟨made, hprepares⟩, -⟩ := ih hparents
            exact hprepares.of_parent.makeLast h
          · rename_i hparents
            obtain ⟨rfl, rfl⟩ := Prod.mk.inj h
            obtain ⟨⟨made, hprepares⟩, -⟩ := ih hparents
            exact ⟨⟨made, hprepares.of_parent⟩, by simp⟩
      · obtain ⟨rfl, hfind⟩ := excuse_spec h
        exact ⟨⟨[], .refl fs' p⟩, hfind⟩

/-- All that changes when a directory is made with those above it is that new directories are made
at places that its path passes, also when this fails on the way. -/
theorem makeDirectories_prepares (h : fs.makeDirectories existingOk p = (outcome, fs')) :
    ∃ made, Prepares fs p fs' made :=
  (makeWithParents_prepares h).1

/-- The path of a directory that has been made leads to one. -/
theorem find_of_makeDirectories (h : fs.makeDirectories existingOk p = (.ok (), fs')) :
    ∃ l, fs'.find p = .ok (l, .directory) :=
  (makeWithParents_prepares h).2 rfl

end Scaffold.FileSystem
