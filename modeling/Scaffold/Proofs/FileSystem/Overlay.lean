import Mathlib.Tactic.Lemma
import Scaffold.Proofs.FileSystem.Walking

/-!
# Laying entries over a file system

A list of entries, each with its location, is laid over a file system one after the other. An entry
comes in place of what lies there, but a directory that is there already stays as it is.

* `children`: the names in a directory in order.
* `deposit`, `overlay`: one entry laid down, and a list of them.
* `get?_overlay_of_mem`, `get?_overlay_of_notMem`, `children_overlay`: what lies where afterwards.
* `Takes`: the entries differ from each other and from what is there at most in the contents of
  files. `Takes.overlay` says that this stays so, and `Takes.grows_overlay` that the file system
  then only grows.
-/

namespace Scaffold

/-- What sort of thing an entry is. -/
inductive Kind where
  | directory
  | file
  | link
  deriving DecidableEq, Repr

/-- The kind of an entry. -/
def Entry.kind : Entry → Kind
  | .directory => .directory
  | .file _ => .file
  | .link _ => .link

@[simp] lemma Entry.kind_eq_directory_iff {e : Entry} : e.kind = .directory ↔ e = .directory := by
  cases e with
  | directory => simp [kind]
  | file content => simp [kind]
  | link target => simp [kind]

/-- A directory is no link. -/
lemma Entry.directory_kind_ne_link : Entry.directory.kind ≠ .link := by
  decide

/-- A file is no link. -/
lemma Entry.file_kind_ne_link (content : ByteArray) : (Entry.file content).kind ≠ .link := by
  simp [kind]

namespace FileSystem

variable {fs fs' : FileSystem} {x : Location × Entry} {xs ys : List (Location × Entry)}
  {d l : Location} {e : Entry}

/-! ## Names in order -/

/-- The names in a directory in their order, in which a rendering takes them. -/
def children (fs : FileSystem) (d : Location) : List String :=
  sortNames (fs.listing d)

/-- A directory has the names at which something is in it. -/
lemma mem_children {n : String} : n ∈ fs.children d ↔ (fs.get? (d ++ [n])).isSome := by
  rw [children, sortNames, List.mem_mergeSort, mem_listing]

/-- There are no names in order where there are none. -/
lemma children_eq_nil_iff : fs.children d = [] ↔ fs.listing d = [] := by
  simp only [List.eq_nil_iff_forall_not_mem, mem_children, mem_listing]

/-! ## One entry -/

/-- An entry laid down at its location. A directory that is there already stays. -/
def deposit (fs : FileSystem) (x : Location × Entry) : FileSystem :=
  if x.2 = .directory ∧ fs.get? x.1 = some .directory then fs else fs.put x.1 x.2

@[simp] lemma deposit_file (fs : FileSystem) (l : Location) (content : ByteArray) :
    fs.deposit (l, .file content) = fs.put l (.file content) := by
  simp [deposit]

/-- A directory is not made again. -/
lemma deposit_directory_of_present (h : fs.get? l = some .directory) :
    fs.deposit (l, .directory) = fs := by
  simp [deposit, h]

/-- A directory is made where nothing is. -/
lemma deposit_directory_of_absent (h : fs.get? l = none) :
    fs.deposit (l, .directory) = fs.put l .directory := by
  simp [deposit, h]

/-- An entry is where it has been deposited. -/
lemma get?_deposit_self (h : x.1 ≠ []) : (fs.deposit x).get? x.1 = some x.2 := by
  unfold deposit
  by_cases hstays : x.2 = .directory ∧ fs.get? x.1 = some .directory
  · rw [if_pos hstays, hstays.1, hstays.2]
  · rw [if_neg hstays, get?_put_self fs x.2 h]

/-- What is deposited leaves every other place as it is. -/
lemma get?_deposit_of_ne (h : l ≠ x.1) : (fs.deposit x).get? l = fs.get? l := by
  unfold deposit
  by_cases hstays : x.2 = .directory ∧ fs.get? x.1 = some .directory
  · rw [if_pos hstays]
  · rw [if_neg hstays, get?_put_of_ne fs x.2 h]

@[simp] lemma workingDirectory_deposit :
    (fs.deposit x).workingDirectory = fs.workingDirectory := by
  unfold deposit
  split
  · rfl
  · rfl

/-- The names in a directory stay the same when nothing is put in it. -/
lemma listing_put (h : ∀ n, l ≠ d ++ [n]) (e : Entry) :
    (fs.put l e).listing d = fs.listing d := by
  have hl : childName? d l = none := by
    cases hn : childName? d l with
    | none => rfl
    | some n => exact absurd (childName?_eq_some_iff.mp hn) (h n)
  have hothers : ((fs.entries.filter (·.1 ≠ l)).filterMap fun x => childName? d x.1) =
      fs.entries.filterMap fun x => childName? d x.1 := by
    rw [List.filterMap_filter]
    congr 1
    funext x
    by_cases hx : x.1 = l
    · simp [hx, hl]
    · simp [hx]
  simp only [listing, put, List.filterMap_cons, hl, hothers]

/-- A directory has the names that it had if nothing is put into it. -/
lemma children_put (h : ∀ n, l ≠ d ++ [n]) (e : Entry) :
    (fs.put l e).children d = fs.children d :=
  congrArg sortNames (listing_put h e)

/-- A directory has the names that it had if nothing is deposited in it. -/
lemma children_deposit (h : ∀ n, x.1 ≠ d ++ [n]) :
    (fs.deposit x).children d = fs.children d := by
  unfold deposit
  split
  · rfl
  · exact children_put h x.2

/-! ## A list of entries -/

/-- The entries of a list laid down in turn. -/
def overlay (fs : FileSystem) (xs : List (Location × Entry)) : FileSystem :=
  xs.foldl deposit fs

@[simp] lemma overlay_nil : fs.overlay [] = fs := rfl

@[simp] lemma overlay_cons : fs.overlay (x :: xs) = (fs.deposit x).overlay xs := rfl

/-- Deposits in a row are made one after another. -/
lemma overlay_append : fs.overlay (xs ++ ys) = (fs.overlay xs).overlay ys :=
  List.foldl_append

/-- Where nothing is laid down, everything stays. -/
lemma get?_overlay_of_notMem (h : ∀ x ∈ xs, x.1 ≠ l) : (fs.overlay xs).get? l = fs.get? l := by
  induction xs generalizing fs with
  | nil => rfl
  | cons x xs ih =>
      have hx : l ≠ x.1 := fun heq => h x List.mem_cons_self heq.symm
      rw [overlay_cons, ih fun y hy => h y (List.mem_cons_of_mem x hy), get?_deposit_of_ne hx]

/-- An entry that is laid down lies there in the end, if no other one is laid over it. -/
lemma get?_overlay_of_mem (hl : l ≠ []) (hmem : (l, e) ∈ xs)
    (honly : ∀ x ∈ xs, x.1 = l → x.2 = e) : (fs.overlay xs).get? l = some e := by
  induction xs generalizing fs with
  | nil => cases hmem
  | cons x xs ih =>
      have honly' : ∀ y ∈ xs, y.1 = l → y.2 = e := fun y hy => honly y (List.mem_cons_of_mem x hy)
      rw [overlay_cons]
      by_cases hagain : (l, e) ∈ xs
      · exact ih hagain honly'
      · have hx : (l, e) = x := (List.mem_cons.mp hmem).resolve_right hagain
        have hrest : ∀ y ∈ xs, y.1 ≠ l := by
          intro y hy hyl
          have hye : y.2 = e := honly' y hy hyl
          exact hagain (hyl ▸ hye ▸ hy)
        subst hx
        rw [get?_overlay_of_notMem hrest]
        exact get?_deposit_self hl

/-- The names in a directory stay the same when nothing is laid down in it. -/
lemma children_overlay (h : ∀ x ∈ xs, ∀ n, x.1 ≠ d ++ [n]) :
    (fs.overlay xs).children d = fs.children d := by
  induction xs generalizing fs with
  | nil => rfl
  | cons x xs ih =>
      rw [overlay_cons, ih fun y hy => h y (List.mem_cons_of_mem x hy),
        children_deposit (h x List.mem_cons_self)]

/-! ## Entries that a file system takes -/

/-- Entries that can be laid over a file system with nothing lost but the contents of files: two
that are laid down at one location are of one kind, which is also that of what lies there. No
entry is a link, and none comes in place of the root. -/
structure Takes (fs : FileSystem) (xs : List (Location × Entry)) : Prop where
  coherent : ∀ x ∈ xs, ∀ y ∈ xs, x.1 = y.1 → x.2.kind = y.2.kind
  present : ∀ x ∈ xs, ∀ e, fs.get? x.1 = some e → e.kind = x.2.kind
  no_link : ∀ x ∈ xs, x.2.kind ≠ .link
  not_root : ∀ x ∈ xs, x.1 ≠ []

/-- What files take they still take when the first of it has been deposited. -/
lemma Takes.deposit (h : fs.Takes xs) (hx : x ∈ xs) : (fs.deposit x).Takes xs where
  coherent := h.coherent
  present := by
    intro y hy e he
    by_cases hxy : y.1 = x.1
    · rw [hxy, get?_deposit_self (h.not_root x hx)] at he
      obtain rfl := Option.some.inj he
      exact h.coherent x hx y hy hxy.symm
    · rw [get?_deposit_of_ne hxy] at he
      exact h.present y hy e he
  no_link := h.no_link
  not_root := h.not_root

/-- An entry that is taken leaves directories and links where they are. -/
lemma Takes.grows_deposit (h : fs.Takes xs) (hx : x ∈ xs) : Grows fs (fs.deposit x) where
  workingDirectory := workingDirectory_deposit
  directory l hl := by
    by_cases hlx : l = x.1
    · subst hlx
      have hkind : x.2.kind = .directory := (h.present x hx _ hl).symm
      rw [get?_deposit_self (h.not_root x hx), Entry.kind_eq_directory_iff.mp hkind]
    · rw [get?_deposit_of_ne hlx, hl]
  link l target hl := by
    by_cases hlx : l = x.1
    · subst hlx
      exact absurd (h.present x hx _ hl).symm (h.no_link x hx)
    · rw [get?_deposit_of_ne hlx, hl]

/-- What is taken can be taken again, also after a part of it has been laid down. -/
lemma Takes.overlay (h : fs.Takes xs) (hys : ∀ y ∈ ys, y ∈ xs) : (fs.overlay ys).Takes xs := by
  induction ys generalizing fs with
  | nil => exact h
  | cons y ys ih =>
      exact ih (h.deposit (hys y List.mem_cons_self)) fun z hz => hys z (List.mem_cons_of_mem y hz)

/-- Entries that are taken leave directories and links where they are. -/
lemma Takes.grows_overlay (h : fs.Takes xs) (hys : ∀ y ∈ ys, y ∈ xs) :
    Grows fs (fs.overlay ys) := by
  induction ys generalizing fs with
  | nil => exact .refl fs
  | cons y ys ih =>
      have hy : y ∈ xs := hys y List.mem_cons_self
      exact (h.grows_deposit hy).trans
        (ih (h.deposit hy) fun z hz => hys z (List.mem_cons_of_mem y hz))

end FileSystem

end Scaffold
