import Mathlib.Tactic.Lemma
import Scaffold.Proofs.FileSystem.Gaining
import Scaffold.Proofs.FileSystem.Outcome
import Scaffold.Proofs.Tree.Forest

/-!
# Laying entries down again

A list of entries that has been laid over a file system can be laid over it once more. Entries of one
list may come in place of each other, so on the way things lie elsewhere than before; in the end
everything is as it was.

* `Alike`: two file systems that hold and list the same.
* `keys`: the locations at which something is stored. `children_of_keys` says that what is listed depends
  on nothing else.
* `Takes.keys_overlay_perm`: what is laid down again is stored where it was stored before.
* `Takes.overlay_overlay`: laying a list of entries down twice comes to the same as doing it once.
-/

namespace Scaffold.FileSystem

variable {fs fs' : FileSystem} {x : Location × Entry} {xs ys : List (Location × Entry)}
  {l : Location} {e : Entry}

/-- The same lies everywhere in two file systems and is listed in the same order, and relative paths
start from one directory. -/
structure Alike (fs fs' : FileSystem) : Prop where
  workingDirectory : fs'.workingDirectory = fs.workingDirectory
  get? : ∀ l, fs'.get? l = fs.get? l
  children : ∀ l, fs'.children l = fs.children l

/-! ## What lies where -/

/-- What lies somewhere after entries have been laid down does not depend on what lay at their
locations before. -/
lemma get?_overlay_congr (hroot : ∀ x ∈ xs, x.1 ≠ [])
    (h : ∀ l, (∀ x ∈ xs, x.1 ≠ l) → fs.get? l = fs'.get? l) :
    (fs.overlay xs).get? l = (fs'.overlay xs).get? l := by
  induction xs generalizing fs fs' with
  | nil => exact h l (by simp)
  | cons x xs ih =>
      obtain ⟨hx, hxs⟩ := List.forall_mem_cons.mp hroot
      rw [overlay_cons, overlay_cons]
      refine ih hxs fun l hl => ?_
      by_cases hlx : l = x.1
      · rw [hlx, get?_deposit_self hx, get?_deposit_self hx]
      · rw [get?_deposit_of_ne hlx, get?_deposit_of_ne hlx]
        exact h l (List.forall_mem_cons.mpr ⟨fun heq => hlx heq.symm, hl⟩)

@[simp] lemma workingDirectory_overlay : (fs.overlay xs).workingDirectory = fs.workingDirectory := by
  induction xs generalizing fs with
  | nil => rfl
  | cons x xs ih => rw [overlay_cons, ih, workingDirectory_deposit]

/-! ## What is stored -/

/-- The locations at which something is stored. -/
def keys (fs : FileSystem) : List Location :=
  fs.entries.map Prod.fst

/-- What is put has its key once, and the others keep theirs. -/
lemma keys_put : (fs.put l e).keys = l :: fs.keys.filter (· ≠ l) := by
  simp only [keys, put, List.map_cons, List.filter_map]
  rfl

/-- What is listed depends only on where something is stored. -/
lemma children_of_keys (h : fs'.keys.Perm fs.keys) (l : Location) :
    fs'.children l = fs.children l := by
  have hnames := (h.filterMap (childName? l)).trans
    (.of_eq (List.filterMap_map (f := Prod.fst) (l := fs.entries)))
  rw [keys, List.filterMap_map] at hnames
  exact children_of_perm (hnames.trans (List.mergeSort_perm _ _).symm) pairwise_children

/-- What has been put somewhere is stored there once. -/
lemma count_keys_put_self : (fs.put l e).keys.count l = 1 := by
  have hothers : (fs.keys.filter (· ≠ l)).count l = 0 := List.count_eq_zero_of_not_mem (by simp)
  rw [keys_put, List.count_cons_self, hothers]

/-- The keys of other places are as many as before. -/
lemma count_keys_put_of_ne {l' : Location} (h : l' ≠ l) :
    (fs.put l e).keys.count l' = fs.keys.count l' := by
  rw [keys_put, List.count_cons_of_ne h.symm, List.count_filter (by simpa using h)]

/-- Something that is no directory is stored once after it has been laid down. -/
lemma count_keys_deposit_self (h : x.2 ≠ .directory) : (fs.deposit x).keys.count x.1 = 1 := by
  have hput : fs.deposit x = fs.put x.1 x.2 := by simp [deposit, h]
  rw [hput, count_keys_put_self]

/-- What is stored once is so after something has been laid down. -/
lemma count_keys_deposit (h : fs.keys.count l = 1) : (fs.deposit x).keys.count l = 1 := by
  unfold deposit
  split
  · exact h
  · by_cases hl : l = x.1
    · rw [hl, count_keys_put_self]
    · rw [count_keys_put_of_ne hl, h]

/-- A key that is there once is so after an overlay. -/
lemma count_keys_overlay (h : fs.keys.count l = 1) : (fs.overlay xs).keys.count l = 1 := by
  induction xs generalizing fs with
  | nil => exact h
  | cons x xs ih => exact ih (count_keys_deposit h)

/-- An entry that is laid down where it lies already is stored nowhere else than before. -/
lemma keys_deposit_perm (hdir : x.2 = .directory → fs.get? x.1 = some .directory)
    (honce : x.2 ≠ .directory → fs.keys.count x.1 = 1) : (fs.deposit x).keys.Perm fs.keys := by
  by_cases h : x.2 = .directory
  · simp [deposit, h, hdir h]
  · have hput : fs.deposit x = fs.put x.1 x.2 := by simp [deposit, h]
    rw [hput, List.perm_iff_count]
    intro l
    by_cases hl : l = x.1
    · rw [hl, count_keys_put_self, honce h]
    · rw [count_keys_put_of_ne hl]

/-! ## Twice -/

/-- Files that take some entries take each of them. -/
lemma Takes.singleton (h : fs.Takes xs) (hx : x ∈ xs) : fs.Takes [x] :=
  takes_singleton (h.present x hx) (h.no_link x hx) (h.not_root x hx)

/-- Entries that are taken are gained one by one. -/
lemma Takes.gains_overlay (h : fs.Takes xs) (hys : ∀ y ∈ ys, y ∈ xs) :
    Relation.ReflTransGen (Gains fun _ => True) fs (fs.overlay ys) := by
  induction ys generalizing fs with
  | nil => exact .refl
  | cons y ys ih =>
      obtain ⟨hy, hys⟩ := List.forall_mem_cons.mp hys
      exact .head (.intro trivial (h.singleton hy)) (ih (h.deposit hy) hys)

/-- What is laid down is there in the end, or something of its kind. -/
lemma Takes.exists_get?_overlay (h : fs.Takes xs) (hx : x ∈ xs) :
    ∃ e, (fs.overlay xs).get? x.1 = some e ∧ e.kind = x.2.kind := by
  obtain ⟨before, after, rfl⟩ := List.append_of_mem hx
  have htakes : (fs.overlay before).Takes (before ++ x :: after) :=
    h.overlay fun y hy => List.mem_append_left _ hy
  have hself : ((fs.overlay before).deposit x).get? x.1 = some x.2 :=
    get?_deposit_self (h.not_root x hx)
  rw [overlay_append, overlay_cons]
  exact kind_of_gains ((htakes.deposit hx).gains_overlay fun y hy =>
    List.mem_append_right _ (List.mem_cons_of_mem x hy)) hself

/-- A directory that is laid down is there in the end. -/
lemma Takes.get?_overlay_directory (h : fs.Takes xs) (hx : x ∈ xs) (hdir : x.2 = .directory) :
    (fs.overlay xs).get? x.1 = some .directory := by
  obtain ⟨e, hget, hkind⟩ := h.exists_get?_overlay hx
  rw [hdir] at hkind
  rw [hget, Entry.kind_eq_directory_iff.mp hkind]

/-- Something that is laid down, and is no directory, is stored once in the end. -/
lemma count_keys_overlay_of_mem (hx : x ∈ xs) (hdir : x.2 ≠ .directory) :
    (fs.overlay xs).keys.count x.1 = 1 := by
  obtain ⟨before, after, rfl⟩ := List.append_of_mem hx
  rw [overlay_append, overlay_cons]
  exact count_keys_overlay (count_keys_deposit_self hdir)

/-- What is laid down where all of it has been laid down before is stored nowhere else. -/
lemma Takes.keys_overlay_perm (h : fs.Takes xs)
    (hdir : ∀ x ∈ xs, x.2 = .directory → fs.get? x.1 = some .directory)
    (honce : ∀ x ∈ xs, x.2 ≠ .directory → fs.keys.count x.1 = 1) (hys : ∀ y ∈ ys, y ∈ xs) :
    (fs.overlay ys).keys.Perm fs.keys := by
  induction ys generalizing fs with
  | nil => exact .refl _
  | cons y ys ih =>
      obtain ⟨hy, hys⟩ := List.forall_mem_cons.mp hys
      have hgrows := h.grows_deposit hy
      refine (ih (h.deposit hy) (fun x hx hd => hgrows.directory _ (hdir x hx hd))
        (fun x hx hd => count_keys_deposit (honce x hx hd)) hys).trans ?_
      exact keys_deposit_perm (hdir y hy) (honce y hy)

/-- Laying a list of entries down twice comes to the same as doing it once. -/
theorem Takes.overlay_overlay (h : fs.Takes xs) :
    Alike (fs.overlay xs) ((fs.overlay xs).overlay xs) where
  workingDirectory := workingDirectory_overlay
  get? _ := get?_overlay_congr h.not_root fun _ hl => get?_overlay_of_notMem hl
  children := by
    refine children_of_keys ?_
    exact (h.overlay fun _ hx => hx).keys_overlay_perm (fun x hx => h.get?_overlay_directory hx)
      (fun x hx => count_keys_overlay_of_mem hx) fun _ hx => hx

end Scaffold.FileSystem
