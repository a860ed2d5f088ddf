import Mathlib.Tactic.Lemma
import Scaffold.Proofs.FileSystem.Needing

/-!
# Paths that go on

A path that goes on from another one leads somewhere only where the other one leads to a directory.

* `isDirectory_of_below`: a path from which one goes on to a directory leads to one itself.
* `isDirectory_below_eq_false`: a path that goes on from where no directory is leads to none.
* `isSome_of_find_child`: what the path of an entry leads through lies in the directory.
* `exists_isDirectory_child`: in a directory whose entries the system tells about, it tells about every
  path of an entry within its limits.
-/

namespace Scaffold

/-- The front of a path has no null character that the path does not have. -/
lemma Path.NullFree.of_below {p : Path} {ns : List String} (h : (p.below ns).NullFree) : p.NullFree :=
  fun n hn => h n (List.mem_append_left ns hn)

namespace FileSystem

variable {fs : FileSystem} {p : Path} {l : Location} {n : String} {ns : List String}
  {x : Location × Entry}

/-! ## Going on from a directory -/

/-- A path from which one goes on to something leads to a directory. -/
lemma find_of_find_below (hns : ns ≠ []) (h : fs.find (p.below ns) = .ok x) :
    ∃ l, fs.find p = .ok (l, .directory) := by
  obtain ⟨l', e⟩ := x
  rw [find_eq_ok_iff, locate_eq_ok_iff] at h
  obtain ⟨hnull, hshort, hstart, hwalk⟩ := h
  rcases walk_append_cases hns with ⟨l, hl⟩ | ⟨fault, hfault, -⟩
  · refine ⟨l, find_eq_ok_iff.mpr (locate_eq_ok_iff.mpr ⟨?_, ?_, hstart, hl⟩)⟩
    · exact (Path.nullFree_of_notMem_toString hnull).of_below.notMem_toString
    · exact Path.toString_lt_of_below hshort
  · cases hfault.symm.trans hwalk

/-- What leads to a directory leads through one. -/
lemma isDirectory_of_below (h : fs.isDirectory (p.below ns) = .ok true) :
    fs.isDirectory p = .ok true := by
  by_cases hns : ns = []
  · rwa [hns, Path.below_nil] at h
  · obtain ⟨l, hfind⟩ := find_of_isDirectory h
    obtain ⟨l', hfind'⟩ := find_of_find_below hns hfind
    exact isDirectory_of_find hfind'

/-- A path that goes on from where no directory is leads to none, and if it is not too long, the system
says so. -/
lemma isDirectory_below_eq_false (h : fs.isDirectory p = .ok false)
    (hshort : (p.below ns).toString.utf8ByteSize < pathLimit) :
    fs.isDirectory (p.below ns) = .ok false := by
  by_cases hns : ns = []
  · rwa [hns, Path.below_nil]
  cases hbelow : fs.isDirectory (p.below ns) with
  | ok isDir =>
      cases isDir with
      | false => rfl
      | true => cases h.symm.trans (isDirectory_of_below hbelow)
  | error f =>
      -- a name on the way would have to be too long, but then it is one on the way to `p`
      obtain ⟨hnull, hlong | ⟨hstart, hwalk⟩⟩ :=
        locate_tooLong_iff.mp (isDirectory_eq_error_iff.mp ⟨f, hbelow⟩)
      · omega
      have hnull' : '\x00' ∉ p.toString.toList :=
        (Path.nullFree_of_notMem_toString hnull).of_below.notMem_toString
      rcases walk_append_cases hns with ⟨l, hl⟩ | ⟨fault, hfault, htooLong⟩
      · have hfind : fs.find p = .ok (l, .directory) := find_eq_ok_iff.mpr
          (locate_eq_ok_iff.mpr ⟨hnull', Path.toString_lt_of_below hshort, hstart, hl⟩)
        cases h.symm.trans (isDirectory_of_find hfind)
      · obtain rfl := Except.error.inj (hfault.symm.trans hwalk)
        obtain ⟨f', hf'⟩ := isDirectory_eq_error_iff.mpr
          (locate_tooLong_iff.mpr ⟨hnull', .inr ⟨hstart, htooLong rfl⟩⟩)
        cases h.symm.trans hf'

/-! ## Entries of a directory -/

/-- Where the path of an entry leads somewhere, there is an entry of that name. -/
lemma isSome_of_find_child (hfind : fs.find p = .ok (l, .directory)) (hdot : n ≠ ".") (hup : n ≠ "..")
    (h : fs.find (p.child n) = .ok x) : (fs.get? (l ++ [n])).isSome := by
  obtain ⟨l', e⟩ := x
  obtain ⟨k, hwalk⟩ := exists_walk_of_find_child hfind h
  rw [walk_cons, if_neg hdot, if_neg hup] at hwalk
  split at hwalk
  · cases hwalk
  · cases hget : fs.get? (l ++ [n]) with
    | none => simp [hget] at hwalk
    | some e' => rfl

/-- A path that cannot be handed to the system leads to no directory. -/
lemma isDirectory_of_null (h : '\x00' ∈ p.toString.toList) : fs.isDirectory p = .ok false := by
  simp [isDirectory, ask, find, locate, h, bind, Except.bind, meansAbsent]

/-- In a directory whose entries the system tells about, it tells about every path of an entry within its
limits, whether there is such an entry or not. -/
lemma exists_isDirectory_child (hfind : fs.find p = .ok (l, .directory))
    (hentries : ∀ m ∈ fs.listing l, ∃ isDir, fs.isDirectory (p.child m) = .ok isDir)
    (hempty : n ≠ "") (hdot : n ≠ ".") (hup : n ≠ "..") (hslash : '/' ∉ n.toList)
    (hfits : Fits (p.child n)) : ∃ isDir, fs.isDirectory (p.child n) = .ok isDir := by
  by_cases hnull : '\x00' ∈ n.toList
  · exact ⟨false, isDirectory_of_null (Path.mem_toString_of_mem_names (by simp [Path.child]) hnull)⟩
  cases hget : fs.get? (l ++ [n]) with
  | some e => exact hentries n (mem_listing.mpr (by simp [hget]))
  | none =>
      have haddress : fs.Addresses p l n := ⟨hfind, ⟨hempty, hdot, hup, hslash, hnull⟩, hfits⟩
      refine ⟨false, ?_⟩
      simp [isDirectory, ask, find_child_of_absent haddress hget, meansAbsent]

end FileSystem

end Scaffold
