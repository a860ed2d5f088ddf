import Mathlib.Data.List.Nodup
import Mathlib.Data.List.Perm.Subperm
import Mathlib.Tactic.Lemma
import Scaffold.Proofs.FileSystem.Gaining
import Scaffold.Proofs.FileSystem.Rooted

/-!
# How many entries there are

* `Keyed`: every location has at most one entry. It stays so when entries are gained.
* `Keyed.nodup_listing`, `Keyed.nodup_children`: a directory is listed without repetition.
* `length_le_below`: different locations below a directory, at each of which there is something, are at
  most as many as the entries below it.
-/

namespace Scaffold.FileSystem

open Relation

variable {fs fs' : FileSystem} {l src : Location} {e : Entry} {S : Location × Entry → Prop}

/-- Every location has at most one entry. -/
def Keyed (fs : FileSystem) : Prop :=
  (fs.entries.map Prod.fst).Nodup

instance (fs : FileSystem) : Decidable fs.Keyed :=
  inferInstanceAs (Decidable (List.Nodup _))

/-- No entry gets a second key when one is put. -/
lemma Keyed.put (h : fs.Keyed) : (fs.put l e).Keyed := by
  have hothers : ((fs.entries.filter (·.1 ≠ l)).map Prod.fst).Nodup :=
    h.sublist (List.filter_sublist.map Prod.fst)
  refine List.nodup_cons.mpr ⟨fun hmem => ?_, hothers⟩
  obtain ⟨x, hx, hl⟩ := List.mem_map.mp hmem
  simpa [hl] using (List.mem_filter.mp hx).2

/-- Nor when entries are gained. -/
lemma Keyed.of_gains (h : fs.Keyed) (hgains : ReflTransGen (Gains S) fs fs') : fs'.Keyed := by
  induction hgains with
  | refl => exact h
  | tail _ hgains ih =>
      obtain ⟨x, -, -, rfl⟩ := hgains
      unfold deposit
      split
      · exact ih
      · exact ih.put

/-- A directory is listed without repetition. -/
lemma Keyed.nodup_listing (h : fs.Keyed) (l : Location) : (fs.listing l).Nodup := by
  have hnames : fs.listing l = (fs.entries.map Prod.fst).filterMap (childName? l) := by
    rw [listing, List.filterMap_map]
    rfl
  rw [hnames]
  refine List.Nodup.filterMap (fun k k' n hk hk' => ?_) h
  rw [childName?_eq_some_iff.mp hk, childName?_eq_some_iff.mp hk']

/-- No name of a directory is there twice. -/
lemma Keyed.nodup_children (h : fs.Keyed) (l : Location) : (fs.children l).Nodup :=
  (List.mergeSort_perm _ _).nodup_iff.mpr (h.nodup_listing l)

/-- Different locations below a directory, at each of which there is something, are at most as many as
the entries below the directory. -/
lemma length_le_below {places : List Location} (hnodup : places.Nodup)
    (hplaces : ∀ ns ∈ places, ns ≠ [] ∧ (fs.get? (src ++ ns)).isSome) :
    places.length ≤ (fs.below src).length := by
  have hcount : (fs.below src).length =
      ((fs.entries.filter fun x => src.isPrefixOf x.1 && x.1 ≠ src).map Prod.fst).length := by
    rw [below, List.length_mergeSort, List.length_map, List.length_map]
  have hdistinct : (places.map (src ++ ·)).Nodup :=
    hnodup.map fun _ _ => List.append_cancel_left
  rw [hcount, ← List.length_map (src ++ ·)]
  refine (List.subperm_of_subset hdistinct fun l hl => ?_).length_le
  obtain ⟨ns, hns, rfl⟩ := List.mem_map.mp hl
  obtain ⟨hne, hsome⟩ := hplaces ns hns
  obtain ⟨e, hget⟩ := Option.isSome_iff_exists.mp hsome
  have hmem := (mem_entries_of_get? hget).resolve_left (by simp [hne])
  refine List.mem_map.mpr ⟨(src ++ ns, e), List.mem_filter.mpr ⟨hmem, ?_⟩, rfl⟩
  simp [hne]

end Scaffold.FileSystem
