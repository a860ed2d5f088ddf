import Mathlib.Tactic.Lemma
import Scaffold.Proofs.FileSystem.Finding

/-!
# What comes of an operation on an entry of a directory

A name is asked for in a directory that a path leads to, where no link lies under that name. Then
an operation does what it is to do, or fails and changes nothing.

* `find_child_of_not_fits`: a path beyond the limits of the system leads nowhere.
* `write_child_cases`, `makeDirectories_child_cases`: what comes of a change.
* `makeDirectories_of_find`: where there is a directory already, none is made.
-/

namespace Scaffold.FileSystem

variable {fs : FileSystem} {followLast : Bool} {p : Path} {d l : Location} {n : String} {e : Entry}
  {k : Nat} {ns : List String}

/-! ## Paths beyond the limits -/

/-- A path whose last name is too long, or that is too long itself, leads nowhere. -/
lemma locate_child_of_not_fits (hfind : fs.find p = .ok (l, .directory)) (hname : IsPlainName n)
    (hfits : ¬ Fits (p.child n)) :
    fs.locate followLast (p.child n) = .error (.system .nameTooLong (p.child n)) := by
  rw [find_eq_ok_iff, locate_eq_ok_iff] at hfind
  obtain ⟨hnull, -, hstart, hwalk⟩ := hfind
  have hnull' : '\x00' ∉ (p.child n).toString.toList := by
    intro hmem
    rcases Path.mem_toString_child (by decide) hmem with hp | hn
    · exact hnull hp
    · exact hname.null_notMem hn
  unfold locate
  rw [if_neg (by simpa using hnull')]
  by_cases hlong : pathLimit ≤ (p.child n).toString.utf8ByteSize
  · rw [if_pos hlong]
  · -- then the name is what is too long, and the walk says so when it comes to it
    have hsize : nameLimit < n.utf8ByteSize := by
      refine Nat.lt_of_not_le fun hle => hfits ⟨by omega, ?_⟩
      rwa [Path.name_child]
    obtain ⟨k, hk⟩ := walk_append (walks_of_walk hwalk)
    have hstep : fs.walk followLast k l [n] = .error .nameTooLong := by
      rw [walk_cons, if_neg hname.ne_here, if_neg hname.ne_above, if_pos hsize]
    have happend := hk followLast [n] (.inl (by simp))
    rw [hstep] at happend
    have hlost : ¬ ((p.child n).isAbsolute = false ∧
        fs.get? fs.workingDirectory ≠ some .directory) := fun h => h.2 (hstart h.1)
    have hwalk' : fs.walk followLast linkLimit (startOf fs.workingDirectory (p.child n))
        (p.child n).names = .error .nameTooLong := happend
    rw [if_neg hlong, if_neg hlost, hwalk']
    rfl

/-- An entry with too long a path is not found, whether it is there or not. -/
lemma find_child_of_not_fits (hfind : fs.find p = .ok (l, .directory)) (hname : IsPlainName n)
    (hfits : ¬ Fits (p.child n)) :
    fs.find (p.child n) = .error (.system .nameTooLong (p.child n)) := by
  simp [find, locate_child_of_not_fits hfind hname hfits, bind, Except.bind]

/-- Nor is it known whether it is a directory. -/
lemma isDirectory_child_of_not_fits (hfind : fs.find p = .ok (l, .directory))
    (hname : IsPlainName n) (hfits : ¬ Fits (p.child n)) :
    fs.isDirectory (p.child n) = .error (.system .nameTooLong (p.child n)) := by
  simp [isDirectory, ask, find_child_of_not_fits hfind hname hfits, meansAbsent]

/-- Where the system says whether an entry is a directory, the path of the entry leads to it. -/
lemma find_child_of_isDirectory {isDir : Bool} (hfind : fs.find p = .ok (l, .directory))
    (hname : IsPlainName n) (hget : fs.get? (l ++ [n]) = some e) (hlink : e.kind ≠ .link)
    (hdir : fs.isDirectory (p.child n) = .ok isDir) :
    fs.find (p.child n) = .ok (l ++ [n], e) ∧ isDir = decide (e = .directory) := by
  have hfits : Fits (p.child n) := Decidable.byContradiction fun hnot => by
    rw [isDirectory_child_of_not_fits hfind hname hnot] at hdir
    cases hdir
  have hchild := find_child ⟨hfind, hname, hfits⟩ hget hlink
  rw [isDirectory_of_find hchild] at hdir
  exact ⟨hchild, (Except.ok.inj hdir).symm⟩

/-! ## Directories that are there -/

/-- A walk that arrives at a directory finds something at its end also when a link there is not
followed. -/
lemma exists_present_of_walks (h : Walks fs true k d ns (.present l .directory)) :
    ∃ l' e, fs.walk false k d ns = .ok (.present l' e) := by
  generalize hr : Place.present l .directory = r at h
  induction h with
  | here k d => exact ⟨d, .directory, walk_nil⟩
  | dot _ ih =>
      obtain ⟨l', e, hwalk⟩ := ih hr
      exact ⟨l', e, by rw [walk_cons, if_pos rfl, hwalk]⟩
  | up _ ih =>
      obtain ⟨l', e, hwalk⟩ := ih hr
      exact ⟨l', e, by rw [walk_cons, if_neg (by decide), if_pos rfl, hwalk]⟩
  | down hn hget _ ih =>
      obtain ⟨l', e, hwalk⟩ := ih hr
      exact ⟨l', e, by simp only [walk_cons_of_isStep hn, hget, hwalk]⟩
  | absent => cases hr
  | file => cases hr
  | link => cases hr
  | @follow k d n target ns r hn hget _ _ ih =>
      by_cases hns : ns = []
      · exact ⟨d ++ [n], .link target, by simp [walk_cons_of_isStep hn, hget, hns]⟩
      · obtain ⟨l', e, hwalk⟩ := ih hr
        exact ⟨l', e, by simp only [walk_cons_of_isStep hn, hget, hns, false_and, if_false,
          walkAlong, hwalk]⟩

/-- Where a path leads to a directory, no directory is made. -/
lemma makeDirectory_of_find (h : fs.find p = .ok (l, .directory)) :
    fs.makeDirectory p = .error (.system .exists p) := by
  rw [find_eq_ok_iff, locate_eq_ok_iff] at h
  obtain ⟨hnull, hshort, hstart, hwalk⟩ := h
  obtain ⟨l', e, hpresent⟩ := exists_present_of_walks (walks_of_walk hwalk)
  have hlocate : fs.locate false p = .ok (.present l' e) :=
    locate_eq_ok_iff.mpr ⟨hnull, hshort, hstart, hpresent⟩
  simp [makeDirectory, make, hlocate, bind, Except.bind]

/-- Where a path leads to a directory, nothing changes when one is to be made there. -/
lemma makeDirectories_of_find (h : fs.find p = .ok (l, .directory)) :
    fs.makeDirectories true p = (.ok (), fs) := by
  have hdir : fs.isDirectory p = .ok true := by
    rw [isDirectory_of_find h]
    rfl
  unfold makeDirectories
  cases p.names.length with
  | zero => simp [makeWithParents, makeLast, makeDirectory_of_find h, excuse, hdir]
  | succ k => simp [makeWithParents, makeDirectory_of_find h, excuse, hdir]

/-! ## Changes -/

/-- An entry can be laid down when nothing of another kind lies at its location. -/
lemma takes_singleton {x : Location × Entry} (hpresent : ∀ e, fs.get? x.1 = some e → e.kind = x.2.kind)
    (hlink : x.2.kind ≠ .link) (hroot : x.1 ≠ []) : fs.Takes [x] where
  coherent := by simp
  present := by simpa using hpresent
  no_link := by simpa using hlink
  not_root := by simpa using hroot

variable (hfind : fs.find p = .ok (l, .directory)) (hname : IsPlainName n)
  (hlink : ∀ target, fs.get? (l ++ [n]) ≠ some (.link target))

include hfind hname hlink

/-- A file is written where there is none or another one; otherwise that fails. -/
lemma write_child_cases (content : ByteArray) :
    (∃ f, fs.write (p.child n) content = .error f) ∨
      fs.write (p.child n) content = .ok (fs.deposit (l ++ [n], .file content)) ∧
        fs.Takes [(l ++ [n], .file content)] := by
  by_cases hfits : Fits (p.child n)
  · have haddress : fs.Addresses p l n := ⟨hfind, hname, hfits⟩
    by_cases hdirectory : fs.get? (l ++ [n]) = some .directory
    · have hlocate : fs.locate true (p.child n) = _ := locate_child haddress hlink
      rw [placeIn, hdirectory] at hlocate
      exact .inl ⟨.system .isDirectory (p.child n), by simp [write, hlocate, bind, Except.bind]⟩
    · have hkind : ∀ e, fs.get? (l ++ [n]) = some e → e.kind = .file := by
        intro e he
        cases e with
        | directory => exact absurd he hdirectory
        | file old => rfl
        | link target => exact absurd he (hlink target)
      exact .inr ⟨write_child haddress hkind content,
        takes_singleton hkind (Entry.file_kind_ne_link content) (by simp)⟩
  · have hlocate : fs.locate true (p.child n) = _ := locate_child_of_not_fits hfind hname hfits
    exact .inl ⟨_, by simp [write, hlocate, bind, Except.bind]; rfl⟩

/-- A directory is made where there is nothing, or is there already, and its path is within the
limits of the system; otherwise that fails and changes nothing. -/
lemma makeDirectories_child_cases :
    (∃ f, fs.makeDirectories true (p.child n) = (.error f, fs)) ∨
      fs.makeDirectories true (p.child n) = (.ok (), fs.deposit (l ++ [n], .directory)) ∧
        fs.Takes [(l ++ [n], .directory)] ∧ Fits (p.child n) := by
  have hdepth : (p.child n).names.length = p.names.length + 1 := by
    simp [Path.child]
  by_cases hfits : Fits (p.child n)
  · have haddress : fs.Addresses p l n := ⟨hfind, hname, hfits⟩
    by_cases hfile : ∃ content, fs.get? (l ++ [n]) = some (.file content)
    · obtain ⟨content, hget⟩ := hfile
      have hlocate : fs.locate false (p.child n) = _ := locate_child haddress hlink
      rw [placeIn, hget] at hlocate
      have hnot : fs.isDirectory (p.child n) = .ok false := by
        rw [isDirectory_of_find (find_child haddress hget (Entry.file_kind_ne_link content))]
        rfl
      refine .inl ⟨.system .exists (p.child n), ?_⟩
      rw [makeDirectories, hdepth, makeWithParents, makeDirectory, make, hlocate]
      simp [bind, Except.bind, excuse, hnot]
    · have hkind : ∀ e, fs.get? (l ++ [n]) = some e → e.kind = .directory := by
        intro e he
        cases e with
        | directory => rfl
        | file content => exact absurd ⟨content, he⟩ hfile
        | link target => exact absurd he (hlink target)
      exact .inr ⟨makeDirectories_child haddress hkind,
        takes_singleton hkind Entry.directory_kind_ne_link (by simp), hfits⟩
  · have hlocate : fs.locate false (p.child n) = _ := locate_child_of_not_fits hfind hname hfits
    have hnot := isDirectory_child_of_not_fits hfind hname hfits
    refine .inl ⟨.system .nameTooLong (p.child n), ?_⟩
    rw [makeDirectories, hdepth, makeWithParents, makeDirectory, make, hlocate]
    simp [bind, Except.bind, excuse, hnot]

end Scaffold.FileSystem
