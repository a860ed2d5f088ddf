import Mathlib.Logic.Relation
import Mathlib.Tactic.Lemma
import Scaffold.Proofs.FileSystem.Making

/-!
# File systems without loose entries

In a rooted file system every entry lies in a directory.

* `PlainNamed`: every entry has a name that an entry can have.
* `Rooted.get?_append_of_none`: nothing lies below a location where nothing is.
* `Rooted.get?_of_find`, `Rooted.get?_of_locate`: what a path leads to is there, and so is the
  directory in which a last name is missing.
* `Rooted.put`, `Rooted.of_makes`: the file system stays rooted when an entry is put in a directory,
  and when directories are made.
* `makes_of_makeDirectories`, `exists_makes_of_makeDirectories`: making a directory with those above
  it is making directories one by one, the last of them at the path itself if none may be there.
-/

namespace Scaffold.FileSystem

variable {fs fs' fs'' : FileSystem} {followLast existingOk : Bool} {p q : Path} {d l : Location}
  {n : String} {e : Entry} {k : Nat} {ns rest : List String} {r : Place}
  {outcome : Except Failure Unit}

/-! ## Entries of a rooted file system -/

/-- What lies at a location is the root or one of the entries. -/
lemma mem_entries_of_get? (h : fs.get? l = some e) : l = [] ∨ (l, e) ∈ fs.entries := by
  unfold get? at h
  by_cases hl : l = []
  · exact .inl hl
  · rw [if_neg hl] at h
    obtain ⟨before, after, hentries, -⟩ := List.lookup_eq_some_iff.mp h
    refine .inr ?_
    rw [hentries]
    exact List.mem_append_right before List.mem_cons_self

/-- There is no link where none is among the entries. -/
lemma get?_ne_link (h : ∀ x ∈ fs.entries, x.2.kind ≠ .link) (l : Location) (target : String) :
    fs.get? l ≠ some (.link target) := by
  intro hget
  rcases mem_entries_of_get? hget with rfl | hmem
  · rw [get?_nil] at hget
    cases hget
  · exact h _ hmem rfl

/-- Every entry lies in a directory if each of those that are listed does. -/
lemma rooted_of_entries (h : ∀ x ∈ fs.entries, fs.get? x.1.dropLast = some .directory) :
    fs.Rooted := by
  intro d n hsome
  obtain ⟨e, hget⟩ := Option.isSome_iff_exists.mp hsome
  have hmem := (mem_entries_of_get? hget).resolve_left (by simp)
  simpa using h _ hmem

/-- Every entry has a name that an entry of a directory can have. -/
def PlainNamed (fs : FileSystem) : Prop :=
  ∀ l n, (fs.get? (l ++ [n])).isSome → IsPlainName n

/-- Every entry has such a name if each of those that are listed does. -/
lemma plainNamed_of_entries (h : ∀ x ∈ fs.entries, ∀ n ∈ x.1.getLast?, IsPlainName n) :
    fs.PlainNamed := by
  intro l n hsome
  obtain ⟨e, hget⟩ := Option.isSome_iff_exists.mp hsome
  have hmem := (mem_entries_of_get? hget).resolve_left (by simp)
  exact h _ hmem n (by simp)

/-- An entry below which something lies is a directory. -/
lemma Rooted.get?_of_append (h : fs.Rooted) (hrest : rest ≠ [])
    (hsome : (fs.get? (l ++ rest)).isSome) : fs.get? l = some .directory := by
  induction rest generalizing l with
  | nil => exact absurd rfl hrest
  | cons n ns ih =>
      refine h l n ?_
      rw [← List.singleton_append, ← List.append_assoc] at hsome
      by_cases hns : ns = []
      · rwa [hns, List.append_nil] at hsome
      · rw [ih hns hsome]
        rfl

/-- What lies below a directory lies in one of its entries, or is one. -/
lemma Rooted.mem_children_of_get? (h : fs.Rooted) (hget : fs.get? (l ++ n :: rest) = some e) :
    n ∈ fs.children l := by
  rw [mem_children]
  rw [List.append_cons] at hget
  by_cases hrest : rest = []
  · rw [hrest, List.append_nil] at hget
    rw [hget]
    rfl
  · rw [h.get?_of_append hrest (by rw [hget]; rfl)]
    rfl

/-- Nothing lies below a location where nothing is. -/
lemma Rooted.get?_append_of_none (h : fs.Rooted) (hnone : fs.get? l = none) :
    fs.get? (l ++ rest) = none := by
  by_cases hrest : rest = []
  · rwa [hrest, List.append_nil]
  · rw [← Option.not_isSome_iff_eq_none]
    intro hsome
    rw [h.get?_of_append hrest hsome] at hnone
    cases hnone

/-- Nothing lies below an empty directory. -/
lemma Rooted.get?_append_of_listing (h : fs.Rooted) (hempty : fs.listing l = [])
    (hrest : rest ≠ []) : fs.get? (l ++ rest) = none := by
  obtain ⟨n, ns, rfl⟩ := List.exists_cons_of_ne_nil hrest
  rw [← List.singleton_append, ← List.append_assoc]
  refine h.get?_append_of_none ?_
  rw [← Option.not_isSome_iff_eq_none, ← mem_listing, hempty]
  exact List.not_mem_nil

/-- A directory lies in a directory. -/
lemma Rooted.get?_dropLast (h : fs.Rooted) (hd : fs.get? d = some .directory) :
    fs.get? d.dropLast = some .directory := by
  rcases List.eq_nil_or_concat d with rfl | ⟨d', n, rfl⟩
  · exact get?_nil fs
  · rw [List.concat_eq_append, List.dropLast_concat]
    refine h d' n ?_
    rw [← List.concat_eq_append, hd]
    rfl

/-! ## Where walks arrive -/

/-- A path starts at a directory if the working directory is one. -/
lemma get?_startOf (hd : fs.get? d = some .directory) (p : Path) :
    fs.get? (startOf d p) = some .directory := by
  unfold startOf
  split
  · exact get?_nil fs
  · exact hd

/-- A walk arrives at what lies there, or in a directory. -/
lemma Rooted.get?_of_walks (h : fs.Rooted) (hwalks : Walks fs followLast k d ns r)
    (hd : fs.get? d = some .directory) :
    (∀ l e, r = .present l e → fs.get? l = some e) ∧
      ∀ l n, r = .absent l n → fs.get? l = some .directory := by
  induction hwalks with
  | here k d => exact ⟨fun l e hr => by cases hr; exact hd, fun l n hr => by cases hr⟩
  | dot _ ih => exact ih hd
  | up _ ih => exact ih (h.get?_dropLast hd)
  | down _ hget _ ih => exact ih hget
  | absent k hn hget => exact ⟨fun l e hr => (by cases hr), fun l n hr => by cases hr; exact hd⟩
  | file k hn hget => exact ⟨fun l e hr => by cases hr; exact hget, fun l n hr => (by cases hr)⟩
  | link k hn hget _ => exact ⟨fun l e hr => by cases hr; exact hget, fun l n hr => (by cases hr)⟩
  | follow _ _ _ _ ih => exact ih (get?_startOf hd _)

/-- What a path leads to is there, or could be made in a directory. -/
lemma Rooted.get?_of_locate (h : fs.Rooted) (hlocate : fs.locate followLast p = .ok r) :
    (∀ l e, r = .present l e → fs.get? l = some e) ∧
      ∀ l n, r = .absent l n → fs.get? l = some .directory := by
  obtain ⟨-, -, hstart, hwalk⟩ := locate_eq_ok_iff.mp hlocate
  refine h.get?_of_walks (walks_of_walk hwalk) ?_
  unfold startOf
  cases habs : p.isAbsolute with
  | true => exact get?_nil fs
  | false => exact hstart habs

/-- What a path leads to is there. -/
lemma Rooted.get?_of_find (h : fs.Rooted) (hfind : fs.find p = .ok (l, e)) :
    fs.get? l = some e :=
  (h.get?_of_locate (find_eq_ok_iff.mp hfind)).1 l e rfl

/-! ## Rooted file systems stay so -/

/-- An entry is put in a directory, where there is no directory or another one is put. -/
lemma Rooted.put (h : fs.Rooted) (hl : fs.get? l = some .directory)
    (he : fs.get? (l ++ [n]) = some .directory → e = .directory) :
    (fs.put (l ++ [n]) e).Rooted := by
  intro d m hsome
  by_cases hself : d ++ [m] = l ++ [n]
  · obtain ⟨rfl, -⟩ := List.append_inj' hself rfl
    rwa [get?_put_of_ne fs e (by simp)]
  · rw [get?_put_of_ne fs e hself] at hsome
    have hd := h d m hsome
    by_cases habove : d = l ++ [n]
    · subst habove
      rw [get?_put_self fs e (by simp), he hd]
    · rwa [get?_put_of_ne fs e habove]

/-- A directory that is made lies in a directory, and is empty. -/
lemma Rooted.makeDirectory_eq_ok (h : fs.Rooted) (hmake : fs.makeDirectory p = .ok fs') :
    ∃ l n, fs.get? l = some .directory ∧ fs.get? (l ++ [n]) = none ∧
      fs' = fs.put (l ++ [n]) .directory ∧ fs'.find p = .ok (l ++ [n], .directory) := by
  obtain ⟨place, hnone, hfs', hfind⟩ := FileSystem.makeDirectory_eq_ok hmake
  unfold makeDirectory make at hmake
  cases hlocate : fs.locate false p with
  | error f => simp [hlocate, bind, Except.bind] at hmake
  | ok r =>
      cases r with
      | present l e => simp [hlocate, bind, Except.bind] at hmake
      | absent l n =>
          have hl := (h.get?_of_locate hlocate).2 l n rfl
          have hwalk := (locate_eq_ok_iff.mp hlocate).2.2.2
          have habsent := get?_of_walks_absent (walks_of_walk hwalk)
          simp only [hlocate, bind, Except.bind, Except.ok.injEq] at hmake
          -- the place that is known to be new is the one where the walk found nothing
          have hplace : place = l ++ [n] := by
            refine Decidable.byContradiction fun hne => ?_
            have hdir := get?_put_self fs .directory (l := l ++ [n]) (by simp)
            rw [hmake, hfs', get?_deposit_of_ne (fun heq => hne heq.symm), habsent] at hdir
            cases hdir
          rw [hplace] at hfind
          exact ⟨l, n, hl, habsent, hmake.symm, hfind⟩

/-- One directory is made at some path. -/
def Makes (fs fs' : FileSystem) : Prop :=
  ∃ p, fs.makeDirectory p = .ok fs'

/-- Whatever lies somewhere stays there when directories are made. -/
lemma keeps_of_makes (hmakes : Relation.ReflTransGen Makes fs fs') : Keeps fs fs' := by
  intro l e hget
  induction hmakes with
  | refl => exact hget
  | tail _ hmake ih =>
      obtain ⟨q, hq⟩ := hmake
      obtain ⟨l', hnone, rfl, -⟩ := makeDirectory_eq_ok hq
      rwa [get?_deposit_of_ne]
      rintro rfl
      rw [ih] at hnone
      cases hnone

/-- Entries that are made in directories leave every entry in one. -/
lemma Rooted.of_makes (h : fs.Rooted) (hmakes : Relation.ReflTransGen Makes fs fs') :
    fs'.Rooted := by
  induction hmakes with
  | refl => exact h
  | tail _ hmake ih =>
      obtain ⟨q, hq⟩ := hmake
      obtain ⟨l, n, hl, hnone, rfl, -⟩ := ih.makeDirectory_eq_ok hq
      exact ih.put hl fun hdir => rfl

/-- Making the last directory of a path makes entries in directories. -/
lemma makes_of_makeLast (hlast : fs.makeLast existingOk p = (outcome, fs')) :
    Relation.ReflTransGen Makes fs fs' := by
  unfold makeLast at hlast
  split at hlast
  · rename_i hmake
    obtain ⟨-, rfl⟩ := Prod.mk.inj hlast
    exact .single ⟨p, hmake⟩
  · obtain ⟨-, rfl⟩ := Prod.mk.inj hlast
    exact .refl
  · obtain ⟨rfl, -⟩ := excuse_spec hlast
    exact .refl

/-- So does making it with all directories above it. -/
lemma makes_of_makeWithParents (h : makeWithParents k fs existingOk p = (outcome, fs')) :
    Relation.ReflTransGen Makes fs fs' := by
  induction k generalizing existingOk p outcome fs' with
  | zero => exact makes_of_makeLast h
  | succ k ih =>
      unfold makeWithParents at h
      split at h
      · rename_i hmake
        obtain ⟨-, rfl⟩ := Prod.mk.inj h
        exact .single ⟨p, hmake⟩
      · split at h
        · obtain ⟨-, rfl⟩ := Prod.mk.inj h
          exact .refl
        · split at h
          · rename_i hparents
            exact (ih hparents).trans (makes_of_makeLast h)
          · rename_i hparents
            obtain ⟨-, rfl⟩ := Prod.mk.inj h
            exact ih hparents
      · obtain ⟨rfl, -⟩ := excuse_spec h
        exact .refl

/-- Making a directory with those above it is making directories one by one. -/
lemma makes_of_makeDirectories (h : fs.makeDirectories existingOk p = (outcome, fs')) :
    Relation.ReflTransGen Makes fs fs' :=
  makes_of_makeWithParents h

/-- No failure is excused where no directory may be. -/
lemma excuse_false (p : Path) (f : Failure) : (fs.excuse false p f).1 = .error f := by
  cases f <;> simp [excuse]

/-- A directory that must be new has been made. -/
lemma makeDirectory_of_makeLast (h : fs.makeLast false p = (.ok (), fs')) :
    fs.makeDirectory p = .ok fs' := by
  unfold makeLast at h
  split at h
  · rename_i hmake
    rw [hmake, (Prod.mk.inj h).2]
  · cases (Prod.mk.inj h).1
  · rename_i f _ _
    have hfirst := congrArg Prod.fst h
    rw [excuse_false] at hfirst
    cases hfirst

/-- A directory made where none may be is itself the last one made. -/
lemma exists_makes_of_makeDirectories (h : fs.makeDirectories false p = (.ok (), fs')) :
    ∃ fs'', Relation.ReflTransGen Makes fs fs'' ∧ fs''.makeDirectory p = .ok fs' := by
  unfold makeDirectories at h
  cases hlength : p.names.length with
  | zero =>
      rw [hlength, makeWithParents] at h
      exact ⟨fs, .refl, makeDirectory_of_makeLast h⟩
  | succ k =>
      rw [hlength, makeWithParents] at h
      split at h
      · rename_i hmake
        rw [(Prod.mk.inj h).2] at hmake
        exact ⟨fs, .refl, hmake⟩
      · split at h
        · cases (Prod.mk.inj h).1
        · split at h
          · rename_i hparents
            exact ⟨_, makes_of_makeWithParents hparents, makeDirectory_of_makeLast h⟩
          · cases (Prod.mk.inj h).1
      · have hfirst := congrArg Prod.fst h
        rw [excuse_false] at hfirst
        cases hfirst

/-- A directory that can be made is made as the last one of its path. -/
lemma makeLast_of_makeDirectory (h : fs.makeDirectory p = .ok fs') :
    fs.makeLast existingOk p = (.ok (), fs') := by
  simp only [makeLast, h]

/-- A directory that can be made where none may be is made as well where one may be. -/
lemma makeDirectories_true_of_false (h : fs.makeDirectories false p = (.ok (), fs')) :
    fs.makeDirectories true p = (.ok (), fs') := by
  unfold makeDirectories at h ⊢
  cases hlength : p.names.length with
  | zero =>
      rw [hlength, makeWithParents] at h
      rw [makeWithParents]
      exact makeLast_of_makeDirectory (makeDirectory_of_makeLast h)
  | succ k =>
      rw [hlength, makeWithParents] at h
      rw [makeWithParents]
      split at h
      · exact h
      · by_cases hnames : p.names = []
        · rw [if_pos hnames] at h
          cases (Prod.mk.inj h).1
        · rw [if_neg hnames] at h
          simp only [if_neg hnames]
          split at h
          · exact makeLast_of_makeDirectory (makeDirectory_of_makeLast h)
          · exact h
      · have hfirst := congrArg Prod.fst h
        rw [excuse_false] at hfirst
        cases hfirst

/-- A directory made where none may be is empty. -/
lemma Rooted.get?_append_of_makeDirectories (h : fs.Rooted)
    (hmake : fs.makeDirectories false p = (.ok (), fs')) :
    ∃ l, fs'.find p = .ok (l, .directory) ∧ fs.get? l = none ∧
      ∀ rest, rest ≠ [] → fs'.get? (l ++ rest) = none := by
  obtain ⟨fs'', hmakes, hlast⟩ := exists_makes_of_makeDirectories hmake
  obtain ⟨l, n, -, hnone, rfl, hfind⟩ := (h.of_makes hmakes).makeDirectory_eq_ok hlast
  refine ⟨l ++ [n], hfind, ?_, fun rest hrest => ?_⟩
  · cases hget : fs.get? (l ++ [n]) with
    | none => rfl
    | some e =>
        rw [keeps_of_makes hmakes _ _ hget] at hnone
        cases hnone
  · have hne : l ++ [n] ++ rest ≠ l ++ [n] := by
      simpa using hrest
    rw [get?_put_of_ne fs'' .directory hne]
    exact (h.of_makes hmakes).get?_append_of_none hnone

end Scaffold.FileSystem
