import Mathlib.Tactic.Lemma
import Scaffold.Proofs.FileSystem.Finding

/-!
# Trees of directories and files

* `Forest`: the entries of a directory with all that lies below them.
* `FileSystem.Holds`: a directory holds a forest, and nothing else. `exists_holds` says that every
  directory holds one if there are only directories and files below it.
* `Forest.visits`: the entries that a rendering comes to, in the order in which it does.
* `SameBelow`: nothing has changed at or below a location. `holds_of_sameBelow` says that the
  directory there then holds the same forest.
-/

namespace Scaffold

/-- The entries of a directory, each with what lies below it. -/
inductive Forest where
  | nil
  | file (name : String) (content : ByteArray) (rest : Forest)
  | directory (name : String) (entries rest : Forest)

/-- The names of the entries at the top of a forest. -/
def Forest.names : Forest → List String
  | .nil => []
  | .file name _ rest => name :: rest.names
  | .directory name _ rest => name :: rest.names

/-! ## Forests in a file system -/

namespace FileSystem

/-- The entries of a forest lie at and below a location. A directory holds no other entries than
those that it has in the forest. -/
def HoldsEntries (fs : FileSystem) (l : Location) : Forest → Prop
  | .nil => True
  | .file name content rest =>
    IsPlainName name ∧ fs.get? (l ++ [name]) = some (.file content) ∧ fs.HoldsEntries l rest
  | .directory name entries rest =>
    IsPlainName name ∧ fs.get? (l ++ [name]) = some .directory ∧
      fs.children (l ++ [name]) = entries.names ∧ fs.HoldsEntries (l ++ [name]) entries ∧
      fs.HoldsEntries l rest

/-- The directory at a location holds a forest. -/
structure Holds (fs : FileSystem) (l : Location) (forest : Forest) : Prop where
  names : fs.children l = forest.names
  entries : fs.HoldsEntries l forest

variable {fs fs' : FileSystem} {src l : Location} {xs : List (Location × Entry)}

/-- The names of a directory are sorted. -/
lemma pairwise_children : (fs.children l).Pairwise fun a b => decide (a ≤ b) := by
  refine List.pairwise_mergeSort (fun a b c hab hbc => ?_) (fun a b => ?_) _
  · exact decide_eq_true (String.le_trans (of_decide_eq_true hab) (of_decide_eq_true hbc))
  · simpa using String.le_total a b

/-- The names in a directory are those that are stored, in their order. -/
lemma children_of_perm {names : List String}
    (hnames : (fs.entries.filterMap fun x => childName? l x.1).Perm names)
    (hsorted : names.Pairwise fun a b => decide (a ≤ b)) : fs.children l = names := by
  refine List.Perm.eq_of_pairwise ?_ pairwise_children hsorted
    ((List.mergeSort_perm _ _).trans hnames)
  intro a b _ _ hab hba
  exact String.le_antisymm (of_decide_eq_true hab) (of_decide_eq_true hba)

/-! ## Forests that stay -/

/-- Nothing is different at or below a location. -/
structure SameBelow (fs fs' : FileSystem) (src : Location) : Prop where
  get? : ∀ l, src <+: l → fs'.get? l = fs.get? l
  children : ∀ l, src <+: l → fs'.children l = fs.children l

/-- Entries laid down elsewhere change nothing at or below a location. -/
lemma sameBelow_overlay (h : ∀ x ∈ xs, ¬ src <+: x.1) : SameBelow fs (fs.overlay xs) src where
  get? l hl := by
    refine get?_overlay_of_notMem fun x hx heq => ?_
    exact h x hx (heq ▸ hl)
  children l hl := by
    refine children_overlay fun x hx n heq => ?_
    exact h x hx (heq ▸ hl.trans (List.prefix_append l [n]))

/-- An entry laid down elsewhere changes nothing at or below a location. -/
lemma sameBelow_deposit {x : Location × Entry} (h : ¬ src <+: x.1) :
    SameBelow fs (fs.deposit x) src := by
  have hlist : SameBelow fs (fs.overlay [x]) src := by
    refine sameBelow_overlay fun y hy => ?_
    rwa [List.mem_singleton.mp hy]
  exact hlist

/-- The entries of a forest stay where nothing changes. -/
lemma holdsEntries_of_sameBelow (h : SameBelow fs fs' src) {forest : Forest} (hl : src <+: l)
    (hholds : fs.HoldsEntries l forest) : fs'.HoldsEntries l forest := by
  induction forest generalizing l with
  | nil => trivial
  | file name content rest ih =>
      obtain ⟨hname, hget, hrest⟩ := hholds
      have hinside : src <+: l ++ [name] := hl.trans (List.prefix_append l [name])
      refine ⟨hname, ?_, ih hl hrest⟩
      rw [h.get? _ hinside, hget]
  | directory name entries rest ihEntries ihRest =>
      obtain ⟨hname, hget, hchildren, hentries, hrest⟩ := hholds
      have hinside : src <+: l ++ [name] := hl.trans (List.prefix_append l [name])
      refine ⟨hname, ?_, ?_, ihEntries hinside hentries, ihRest hl hrest⟩
      · rw [h.get? _ hinside, hget]
      · rw [h.children _ hinside, hchildren]

/-- A directory at or below which nothing changes holds the same forest. -/
lemma holds_of_sameBelow (h : SameBelow fs fs' src) {forest : Forest}
    (hholds : fs.Holds src forest) : fs'.Holds src forest where
  names := (h.children src (List.prefix_refl src)).trans hholds.names
  entries := holdsEntries_of_sameBelow h (List.prefix_refl src) hholds.entries

/-! ## Every tree is a forest -/

/-- Below a location there are only directories and files, with names that entries can have. -/
def IsTree (fs : FileSystem) (src : Location) : Prop :=
  ∀ l n e, src <+: l → fs.get? (l ++ [n]) = some e → IsPlainName n ∧ e.kind ≠ .link

/-- No entry lies deeper than a number of names. -/
def Within (fs : FileSystem) (depth : Nat) : Prop :=
  ∀ l e, fs.get? l = some e → l.length ≤ depth

/-- Some depth is enough for all files. -/
lemma exists_within (fs : FileSystem) : ∃ depth, fs.Within depth := by
  refine ⟨(fs.entries.map fun x => x.1.length).sum, fun l e hget => ?_⟩
  unfold get? at hget
  by_cases hroot : l = []
  · subst hroot
    exact Nat.zero_le _
  · rw [if_neg hroot] at hget
    obtain ⟨before, after, hentries, -⟩ := List.lookup_eq_some_iff.mp hget
    simp only [hentries, List.map_append, List.map_cons, List.sum_append, List.sum_cons]
    omega

/-- Some entries of a directory are those of a forest, if each of them that is a directory holds
one. -/
lemma exists_holdsEntries (htree : fs.IsTree src) (hl : src <+: l)
    (hbelow : ∀ n, ∃ forest, fs.Holds (l ++ [n]) forest) (names : List String)
    (hnames : ∀ n ∈ names, n ∈ fs.children l) :
    ∃ forest : Forest, forest.names = names ∧ fs.HoldsEntries l forest := by
  induction names with
  | nil => exact ⟨.nil, rfl, trivial⟩
  | cons n ns ih =>
      obtain ⟨rest, hrestNames, hrest⟩ := ih fun m hm => hnames m (List.mem_cons_of_mem n hm)
      have hsome := mem_children.mp (hnames n List.mem_cons_self)
      obtain ⟨e, hget⟩ := Option.isSome_iff_exists.mp hsome
      obtain ⟨hname, hkind⟩ := htree l n e hl hget
      cases e with
      | directory =>
          obtain ⟨entries, hentries⟩ := hbelow n
          exact ⟨.directory n entries rest, by rw [Forest.names, hrestNames], hname, hget,
            hentries.names, hentries.entries, hrest⟩
      | file content =>
          exact ⟨.file n content rest, by rw [Forest.names, hrestNames], hname, hget, hrest⟩
      | link target => exact absurd rfl hkind

/-- A location below which there are only directories and files holds a forest. -/
theorem exists_holds (htree : fs.IsTree src) : ∃ forest, fs.Holds src forest := by
  obtain ⟨depth, hdepth⟩ := exists_within fs
  suffices h : ∀ k l, src <+: l → depth < l.length + k → ∃ forest, fs.Holds l forest from
    h (depth + 1) src (List.prefix_refl src) (by omega)
  intro k
  induction k with
  | zero =>
      -- nothing lies as deep as this
      intro l _ hlong
      have hempty : fs.children l = [] := by
        refine List.eq_nil_iff_forall_not_mem.mpr fun n hn => ?_
        obtain ⟨e, hget⟩ := Option.isSome_iff_exists.mp (mem_children.mp hn)
        have hle := hdepth _ e hget
        rw [List.length_append, List.length_singleton] at hle
        omega
      exact ⟨.nil, hempty, trivial⟩
  | succ k ih =>
      intro l hl hlong
      have hbelow : ∀ n, ∃ forest, fs.Holds (l ++ [n]) forest := by
        intro n
        refine ih (l ++ [n]) (hl.trans (List.prefix_append l [n])) ?_
        rw [List.length_append, List.length_singleton]
        omega
      obtain ⟨forest, hnames, hentries⟩ :=
        exists_holdsEntries htree hl hbelow (fs.children l) fun _ hn => hn
      exact ⟨forest, hnames.symm, hentries⟩

end FileSystem

/-! ## Visits -/

/-- An entry that a rendering comes to: the names of the directories above it from the root of the
tree, its own name, and its content if it is a file. -/
structure Visit where
  above : List String
  name : String
  content : Option ByteArray

/-- The kind of an entry that is visited. -/
def Visit.kind (v : Visit) : Kind :=
  match v.content with
  | none => .directory
  | some _ => .file

/-- The entry that is visited. -/
def Visit.entry (v : Visit) : Entry :=
  match v.content with
  | none => .directory
  | some content => .file content

/-- The entry of a visit has the kind of the visit. -/
lemma Visit.kind_entry (v : Visit) : v.entry.kind = v.kind := by
  unfold Visit.entry Visit.kind
  cases v.content with
  | none => rfl
  | some content => rfl

/-- The entries of a forest that are visited, a directory before what lies below it. An entry with
an ignored name is passed over with all that lies below it. -/
def Forest.visits (ignored above : List String) : Forest → List Visit
  | .nil => []
  | .file name content rest =>
    if name ∈ ignored then rest.visits ignored above
    else ⟨above, name, some content⟩ :: rest.visits ignored above
  | .directory name entries rest =>
    if name ∈ ignored then rest.visits ignored above
    else
      ⟨above, name, none⟩ ::
        (entries.visits ignored (above ++ [name]) ++ rest.visits ignored above)

end Scaffold
