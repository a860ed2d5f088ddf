import Mathlib.Tactic.Lemma
import Scaffold.Proofs.FileSystem.Naming
import Scaffold.Proofs.FileSystem.Overlay

/-!
# Finding what lies in a directory

What the operations of a file system do with the path of an entry, once the path of its directory
leads somewhere.

* `locate_eq_ok_iff`: a path leads somewhere when it can be handed to the system, has a start, and
  its walk arrives.
* `find_of_grows`: a path that leads to a directory still does after the file system has grown.
* `Addresses`: a path leads to a directory, and a name may be asked for in it. `locate_child` says
  where the path of that entry leads, and `write_child` and `makeDirectories_child`
  what is done there.
-/

namespace Scaffold.FileSystem

variable {fs fs' : FileSystem} {followLast : Bool} {p q : Path} {l l' : Location} {n : String}
  {e : Entry} {r : Place} {content : ByteArray}

/-! ## Paths that lead somewhere -/

/-- Only a failure becomes another one. -/
lemma mapError_eq_ok_iff {α ε ε' : Type} {f : ε → ε'} {x : Except ε α} {a : α} :
    x.mapError f = .ok a ↔ x = .ok a := by
  cases x with
  | ok b => exact ⟨fun h => by rw [Except.ok.inj h], fun h => by rw [Except.ok.inj h]; rfl⟩
  | error e => exact ⟨fun h => (by cases h), fun h => (by cases h)⟩

/-- An error that is mapped was one before. -/
lemma mapError_eq_error_iff {α ε ε' : Type} {f : ε → ε'} {x : Except ε α} {e' : ε'} :
    x.mapError f = .error e' ↔ ∃ e, x = .error e ∧ f e = e' := by
  cases x with
  | ok a => exact ⟨fun h => (by cases h), fun ⟨_, h, _⟩ => (by cases h)⟩
  | error e =>
      constructor
      · exact fun h => ⟨e, rfl, Except.error.inj h⟩
      · rintro ⟨e, h, rfl⟩
        rw [Except.error.inj h]
        rfl

/-- A path leads somewhere when it can be handed to the system, has a start, and its walk
arrives. -/
lemma locate_eq_ok_iff :
    fs.locate followLast p = .ok r ↔
      '\x00' ∉ p.toString.toList ∧ p.toString.utf8ByteSize < pathLimit ∧
        (p.isAbsolute = false → fs.get? fs.workingDirectory = some .directory) ∧
        fs.walk followLast linkLimit (startOf fs.workingDirectory p) p.names = .ok r := by
  unfold locate
  by_cases hnull : '\x00' ∈ p.toString.toList
  · simp [hnull]
  by_cases hlong : pathLimit ≤ p.toString.utf8ByteSize
  · simp [hnull, hlong, Nat.not_lt.mpr hlong]
  by_cases hlost : p.isAbsolute = false ∧ fs.get? fs.workingDirectory ≠ some .directory
  · simp [hnull, hlong, hlost.1, hlost.2]
  have hshort : p.toString.utf8ByteSize < pathLimit := by omega
  have hstart : p.isAbsolute = false → fs.get? fs.workingDirectory = some .directory := by
    intro habs
    exact Decidable.byContradiction fun hget => hlost ⟨habs, hget⟩
  have hcontains : p.toString.toList.contains '\x00' = false := by
    simpa using hnull
  rw [hcontains, if_neg (by simp), if_neg hlong, if_neg hlost, mapError_eq_ok_iff]
  exact ⟨fun h => ⟨hnull, hshort, hstart, h⟩, fun h => h.2.2.2⟩

/-- A path is too long when its text is, or a name that is too long stops its walk. -/
lemma locate_tooLong_iff :
    fs.locate followLast p = .error (.system .nameTooLong p) ↔
      '\x00' ∉ p.toString.toList ∧ (pathLimit ≤ p.toString.utf8ByteSize ∨
        (p.isAbsolute = false → fs.get? fs.workingDirectory = some .directory) ∧
          fs.walk followLast linkLimit (startOf fs.workingDirectory p) p.names =
            .error .nameTooLong) := by
  unfold locate
  by_cases hnull : '\x00' ∈ p.toString.toList
  · simp [hnull]
  by_cases hlong : pathLimit ≤ p.toString.utf8ByteSize
  · simp [hnull, hlong]
  by_cases hlost : p.isAbsolute = false ∧ fs.get? fs.workingDirectory ≠ some .directory
  · simp [hnull, hlong, hlost.1, hlost.2]
  have hstart : p.isAbsolute = false → fs.get? fs.workingDirectory = some .directory := by
    intro habs
    exact Decidable.byContradiction fun hget => hlost ⟨habs, hget⟩
  have hcontains : p.toString.toList.contains '\x00' = false := by
    simpa using hnull
  rw [hcontains, if_neg (by simp), if_neg hlong, if_neg hlost, mapError_eq_error_iff]
  constructor
  · rintro ⟨fault, hwalk, hfault⟩
    obtain rfl := (Failure.system.inj hfault).1
    exact ⟨hnull, .inr ⟨hstart, hwalk⟩⟩
  · rintro ⟨-, hlong' | ⟨-, hwalk⟩⟩
    · exact absurd hlong' hlong
    · exact ⟨.nameTooLong, hwalk, rfl⟩

/-- A path is found if it leads to something that is there. -/
lemma find_eq_ok_iff : fs.find p = .ok (l, e) ↔ fs.locate true p = .ok (.present l e) := by
  unfold find
  cases fs.locate true p with
  | error f => simp [bind, Except.bind]
  | ok r =>
      cases r with
      | present l' e' => simp [bind, Except.bind]
      | absent d n => simp [bind, Except.bind]

/-- A path leads to one location. -/
lemma eq_of_find {e' : Entry} (h : fs.find p = .ok (l, e)) (h' : fs.find p = .ok (l', e')) :
    l = l' := by
  rw [h, Except.ok.injEq, Prod.mk.injEq] at h'
  exact h'.1

/-- A path that leads to a directory still does after the file system has grown. -/
lemma find_of_grows (hgrows : Grows fs fs') (h : fs.find p = .ok (l, .directory)) :
    fs'.find p = .ok (l, .directory) := by
  rw [find_eq_ok_iff, locate_eq_ok_iff] at h ⊢
  obtain ⟨hnull, hshort, hstart, hwalk⟩ := h
  rw [hgrows.workingDirectory]
  refine ⟨hnull, hshort, fun habs => hgrows.directory _ (hstart habs), ?_⟩
  exact walk_of_walks (walks_of_grows hgrows (walks_of_walk hwalk))

/-! ## Entries of a directory -/

/-- A path leads to a directory, and a name may be asked for in it. -/
structure Addresses (fs : FileSystem) (p : Path) (l : Location) (n : String) : Prop where
  find : fs.find p = .ok (l, .directory)
  plain : IsPlainName n
  fits : Fits (p.child n)

/-- A path still leads into its directory when more is made. -/
lemma Addresses.of_grows (h : fs.Addresses p l n) (hgrows : Grows fs fs') :
    fs'.Addresses p l n :=
  ⟨find_of_grows hgrows h.find, h.plain, h.fits⟩

/-- The last name of such a path is a step. -/
lemma Addresses.isStep (h : fs.Addresses p l n) : IsStep n := by
  have hsize := h.fits.2
  rw [Path.name_child] at hsize
  exact ⟨h.plain.ne_here, h.plain.ne_above, hsize⟩

/-- Where a walk ends that has come to a directory and takes one more name. -/
def placeIn (fs : FileSystem) (l : Location) (n : String) : Place :=
  match fs.get? (l ++ [n]) with
  | none => .absent l n
  | some e => .present (l ++ [n]) e

/-- The path of an entry leads to where the walk goes from the directory along its name. -/
lemma Addresses.locate (h : fs.Addresses p l n)
    (hstep : ∀ k, fs.walk followLast k l [n] = .ok (fs.placeIn l n)) :
    fs.locate followLast (p.child n) = .ok (fs.placeIn l n) := by
  have hfind := h.find
  rw [find_eq_ok_iff, locate_eq_ok_iff] at hfind
  obtain ⟨hnull, hshort, hstart, hwalk⟩ := hfind
  obtain ⟨k, hk⟩ := walk_append (walks_of_walk hwalk)
  rw [locate_eq_ok_iff]
  refine ⟨fun hmem => ?_, h.fits.1, hstart, ?_⟩
  · rcases Path.mem_toString_child (by decide) hmem with hp | hn
    · exact hnull hp
    · exact h.plain.null_notMem hn
  · have happend := hk followLast [n] (.inl (by simp))
    rw [hstep] at happend
    exact happend

/-- The path of an entry leads to that entry, or to the place where it is missing. -/
lemma locate_child (h : fs.Addresses p l n)
    (hlink : ∀ target, fs.get? (l ++ [n]) ≠ some (.link target)) :
    fs.locate followLast (p.child n) = .ok (fs.placeIn l n) := by
  refine h.locate fun k => ?_
  rw [walk_cons_of_isStep h.isStep, placeIn]
  cases hget : fs.get? (l ++ [n]) with
  | none => simp
  | some e =>
      cases e with
      | directory => simp
      | file content => simp
      | link target => exact absurd hget (hlink target)

/-- The path of an entry leads to that entry itself, also if it is a link, where a link at the end is not
followed. -/
lemma locate_child_unfollowed (h : fs.Addresses p l n) :
    fs.locate false (p.child n) = .ok (fs.placeIn l n) := by
  refine h.locate fun k => ?_
  rw [walk_cons_of_isStep h.isStep, placeIn]
  cases hget : fs.get? (l ++ [n]) with
  | none => simp
  | some e => cases e <;> simp

/-- An entry is found by the path of its directory and its name, unless it is a link. -/
lemma find_child (h : fs.Addresses p l n) (hget : fs.get? (l ++ [n]) = some e)
    (hlink : e.kind ≠ .link) : fs.find (p.child n) = .ok (l ++ [n], e) := by
  have hlocate : fs.locate true (p.child n) = .ok (fs.placeIn l n) := by
    refine locate_child h fun target ht => ?_
    rw [hget] at ht
    obtain rfl := Option.some.inj ht
    exact hlink rfl
  rw [placeIn, hget] at hlocate
  exact find_eq_ok_iff.mpr hlocate

/-- Where nothing is, nothing is found. -/
lemma find_child_of_absent (h : fs.Addresses p l n) (hget : fs.get? (l ++ [n]) = none) :
    fs.find (p.child n) = .error (.system .noEntry (p.child n)) := by
  have hlocate : fs.locate true (p.child n) = .ok (fs.placeIn l n) := by
    refine locate_child h fun target ht => ?_
    rw [hget] at ht
    cases ht
  rw [placeIn, hget] at hlocate
  simp [find, hlocate, bind, Except.bind]

/-! ## Questions -/

/-- What is found is a directory or not. -/
lemma isDirectory_of_find (h : fs.find p = .ok (l, e)) :
    fs.isDirectory p = .ok (decide (e = .directory)) := by
  simp [isDirectory, ask, h]

/-- A directory that is found is listed. -/
lemma list_of_find (h : fs.find p = .ok (l, .directory)) : fs.list p = .ok (fs.listing l) := by
  simp [list, h, bind, Except.bind]

/-- A path along which names are listed leads to a directory. -/
lemma find_of_list {names : List String} (h : fs.list p = .ok names) :
    ∃ l, fs.find p = .ok (l, .directory) ∧ names = fs.listing l := by
  unfold list at h
  cases hfind : fs.find p with
  | error f => simp [hfind, bind, Except.bind] at h
  | ok x =>
      obtain ⟨l, e⟩ := x
      cases e with
      | directory =>
          simp only [hfind, bind, Except.bind, Except.ok.injEq] at h
          exact ⟨l, rfl, h.symm⟩
      | file content => simp [hfind, bind, Except.bind] at h
      | link target => simp [hfind, bind, Except.bind] at h

/-- A file that is found is read. -/
lemma read_of_find (h : fs.find p = .ok (l, .file content)) : fs.read p = .ok content := by
  simp [read, h, bind, Except.bind]

/-- Paths to entries at different locations do not lead to the same entry, also when there is
nothing at the second. -/
lemma sameEntry_child (hp : fs.find p = .ok (l', e)) (h : fs.Addresses q l n)
    (hlink : ∀ target, fs.get? (l ++ [n]) ≠ some (.link target)) (hne : l' ≠ l ++ [n]) :
    fs.sameEntry p (q.child n) = .ok false := by
  cases hget : fs.get? (l ++ [n]) with
  | none => simp [sameEntry, hp, find_child_of_absent h hget]
  | some e' =>
      have hkind : e'.kind ≠ .link := by
        cases e' with
        | directory => decide
        | file content => simp [Entry.kind]
        | link target => exact absurd hget (hlink target)
      simp [sameEntry, hp, find_child h hget hkind, hne]

/-! ## Changes -/

/-- A file is written where there is none or another one. -/
lemma write_child (h : fs.Addresses p l n)
    (hkind : ∀ e, fs.get? (l ++ [n]) = some e → e.kind = .file) (content : ByteArray) :
    fs.write (p.child n) content = .ok (fs.deposit (l ++ [n], .file content)) := by
  have hlocate : fs.locate true (p.child n) = .ok (fs.placeIn l n) := by
    refine locate_child h fun target ht => ?_
    cases hkind _ ht
  rw [placeIn] at hlocate
  rw [deposit_file, write, hlocate]
  cases hget : fs.get? (l ++ [n]) with
  | none => rfl
  | some e =>
      cases e with
      | directory => cases hkind _ hget
      | file old => rfl
      | link target => cases hkind _ hget

/-- A directory is made where there is nothing, or is there already. -/
lemma makeDirectories_child (h : fs.Addresses p l n)
    (hkind : ∀ e, fs.get? (l ++ [n]) = some e → e.kind = .directory) :
    fs.makeDirectories true (p.child n) = (.ok (), fs.deposit (l ++ [n], .directory)) := by
  have hlocate : fs.locate false (p.child n) = .ok (fs.placeIn l n) := by
    refine locate_child h fun target ht => ?_
    cases hkind _ ht
  have hdepth : (p.child n).names.length = p.names.length + 1 := by
    simp [Path.child]
  rw [placeIn] at hlocate
  rw [makeDirectories, hdepth, makeWithParents, makeDirectory, make, hlocate]
  cases hget : fs.get? (l ++ [n]) with
  | none =>
      rw [deposit_directory_of_absent hget]
      rfl
  | some e =>
      obtain rfl := Entry.kind_eq_directory_iff.mp (hkind e hget)
      have hfind := find_child h hget (by decide)
      rw [deposit_directory_of_present hget]
      simp [bind, Except.bind, excuse, isDirectory_of_find hfind]

end Scaffold.FileSystem
