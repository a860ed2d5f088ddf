import Mathlib.Data.List.Induction
import Mathlib.Tactic.Lemma
import Scaffold.Proofs.FileSystem.Refusing

/-!
# A missing directory and those above it

Below a directory that a path leads to, a list of names whose first is missing there can be made
directories of, one in the other.

* `Missing`: the path goes on from a directory through such names, within the limits of the system.
* `makeDirectories_of_missing`: the directory at its end is made with those above it, and nothing else
  changes.
-/

namespace Scaffold.FileSystem

variable {fs fs' : FileSystem} {q : Path} {l : Location} {m n : String} {ns : List String} {k : Nat}
  {existingOk : Bool}

/-- The path `q` leads to the directory at `l`, where the first of some names is missing with which the
path goes on within the limits of the system. -/
structure Missing (fs : FileSystem) (q : Path) (l : Location) (n : String) (ns : List String) :
    Prop where
  find : fs.find q = .ok (l, .directory)
  absent : fs.get? (l ++ [n]) = none
  plain : ∀ m ∈ n :: ns, IsPlainName m ∧ m.utf8ByteSize ≤ nameLimit
  limit : (q.below (n :: ns)).toString.utf8ByteSize < pathLimit

/-- What is missing above a directory is missing without it as well. -/
lemma Missing.of_concat (h : fs.Missing q l n (ns ++ [m])) : fs.Missing q l n ns where
  find := h.find
  absent := h.absent
  plain m' hm' := by
    refine h.plain m' ?_
    rw [← List.cons_append]
    exact List.mem_append_left _ hm'
  limit := by
    have hlong := q.utf8ByteSize_toString_below (List.cons_ne_nil n (ns ++ [m]))
    have hshort := q.utf8ByteSize_toString_below (List.cons_ne_nil n ns)
    have hextent := Path.extent_append (n :: ns) [m]
    rw [List.cons_append] at hextent
    have hlimit := h.limit
    omega

/-- A name may be asked for where the path goes on after some directories have been made. -/
lemma Missing.addresses (h : fs.Missing q l n (ns ++ [m]))
    (hfind : fs'.find (q.below (n :: ns)) = .ok (l ++ n :: ns, .directory)) :
    fs'.Addresses (q.below (n :: ns)) (l ++ n :: ns) m := by
  obtain ⟨hplain, hsize⟩ := h.plain m (by simp)
  refine ⟨hfind, hplain, ?_, by rwa [Path.name_child]⟩
  rw [Path.child_below, List.cons_append]
  exact h.limit

/-- A directory is made in one that a path leads to, where there is nothing. -/
lemma makeDirectory_child (h : fs.Addresses q l n) (hnone : fs.get? (l ++ [n]) = none) :
    fs.makeDirectory (q.child n) = .ok (fs.put (l ++ [n]) .directory) ∧
      (fs.put (l ++ [n]) .directory).find (q.child n) = .ok (l ++ [n], .directory) := by
  have hlocate : fs.locate false (q.child n) = .ok (fs.placeIn l n) := by
    refine locate_child h fun target ht => ?_
    rw [hnone] at ht
    cases ht
  rw [placeIn, hnone] at hlocate
  refine ⟨by simp only [makeDirectory, make, hlocate, bind, Except.bind], ?_⟩
  exact find_child (h.of_grows (.put hnone .directory)) (get?_put_self fs _ (by simp)) (by decide)

/-- No directory is made where one above it is missing. -/
lemma Missing.makeDirectory (h : fs.Missing q l n ns) (hns : ns ≠ []) :
    fs.makeDirectory (q.below (n :: ns)) = .error (.system .noEntry (q.below (n :: ns))) := by
  have hfind := h.find
  rw [find_eq_ok_iff, locate_eq_ok_iff] at hfind
  obtain ⟨hnull, -, hstart, hwalk⟩ := hfind
  have hnull' : '\x00' ∉ (q.below (n :: ns)).toString.toList := by
    refine Path.NullFree.notMem_toString fun m hm c hc heq => ?_
    rcases List.mem_append.mp hm with hm | hm
    · exact hnull (Path.mem_toString_of_mem_names hm (heq ▸ hc))
    · exact (h.plain m hm).1.null_notMem (heq ▸ hc)
  obtain ⟨hplain, hsize⟩ := h.plain n List.mem_cons_self
  obtain ⟨k, hk⟩ := walk_append (walks_of_walk hwalk)
  have hstops : fs.walk false linkLimit (startOf fs.workingDirectory q) (q.names ++ n :: ns) =
      .error .noEntry := by
    rw [hk false (n :: ns) (.inl (by simp)),
      walk_cons_of_isStep ⟨hplain.ne_here, hplain.ne_above, hsize⟩, h.absent]
    exact if_neg hns
  have hlocate : fs.locate false (q.below (n :: ns)) =
      .error (.system .noEntry (q.below (n :: ns))) := by
    unfold locate
    rw [if_neg (by simpa using hnull'), if_neg (Nat.not_le.mpr h.limit), if_neg]
    · exact congrArg (Except.mapError _) hstops
    · rintro ⟨habs, hlost⟩
      exact hlost (hstart habs)
  simp only [FileSystem.makeDirectory, make, hlocate, bind, Except.bind]

/-- Everything on the way to `l` is a directory, and nothing else has changed. -/
structure Provides (fs : FileSystem) (l : Location) (fs' : FileSystem) : Prop where
  onWay : ∀ m, m <+: l → fs'.get? m = some .directory
  elsewhere : ∀ m, ¬ m <+: l → fs'.get? m = fs.get? m

/-- One more directory is made. -/
lemma Provides.put (h : fs.Provides l fs') : fs.Provides (l ++ [m]) (fs'.put (l ++ [m]) .directory) where
  onWay d hd := by
    by_cases hself : d = l ++ [m]
    · rw [hself, get?_put_self _ _ (by simp)]
    · rw [get?_put_of_ne _ _ hself]
      exact h.onWay d ((List.prefix_concat_iff.mp hd).resolve_left hself)
  elsewhere d hd := by
    have hother : d ≠ l ++ [m] := by
      rintro rfl
      exact hd List.prefix_rfl
    rw [get?_put_of_ne _ _ hother]
    exact h.elsewhere d fun habove => hd (habove.trans (List.prefix_append l [m]))

/-- Nothing changes where everything on the way is a directory already. -/
lemma Rooted.provides (h : fs.Rooted) (hl : fs.get? l = some .directory) : fs.Provides l fs where
  onWay m hm := by
    obtain ⟨rest, rfl⟩ := hm
    by_cases hrest : rest = []
    · rwa [hrest, List.append_nil] at hl
    · exact h.get?_of_append hrest (by rw [hl]; rfl)
  elsewhere _ _ := rfl

/-- A directory that can be made needs no parents. -/
lemma makeWithParents_of_makeDirectory {p : Path} (h : fs.makeDirectory p = .ok fs') :
    makeWithParents k fs existingOk p = (.ok (), fs') := by
  cases k with
  | zero => exact makeLast_of_makeDirectory h
  | succ k => simp only [makeWithParents, h]

/-- Missing directories are made from the top down. The induction is on how many there are. -/
lemma makeWithParents_of_missing (existingOk : Bool) (hrooted : fs.Rooted)
    (h : fs.Missing q l n ns) (hk : ns.length ≤ k) :
    ∃ fs', makeWithParents k fs existingOk (q.below (n :: ns)) = (.ok (), fs') ∧
      fs'.find (q.below (n :: ns)) = .ok (l ++ n :: ns, .directory) ∧
      fs.Provides (l ++ n :: ns) fs' := by
  -- with one name more at the end, the last directory is made when the call for those above it is back
  induction ns using List.reverseRecOn generalizing k existingOk with
  | nil =>
      obtain ⟨hplain, hsize⟩ := h.plain n List.mem_cons_self
      obtain ⟨hmake, hfind⟩ := makeDirectory_child
        ⟨h.find, hplain, h.limit, by rwa [Path.name_child]⟩ h.absent
      have hprovides := (hrooted.provides (hrooted.get?_of_find h.find)).put (m := n)
      exact ⟨_, makeWithParents_of_makeDirectory hmake, hfind, hprovides⟩
  | append_singleton ns m ih =>
      rw [List.length_append, List.length_singleton] at hk
      obtain ⟨k, rfl⟩ : ∃ k', k = k' + 1 := Nat.exists_eq_add_one.mpr (by omega)
      have hk' : ns.length ≤ k := by omega
      obtain ⟨fs₁, hparents, hfind₁, hprovides⟩ := ih true h.of_concat hk'
      have hnone : fs₁.get? (l ++ n :: ns ++ [m]) = none := by
        have hbeyond : ¬ l ++ n :: ns ++ [m] <+: l ++ n :: ns := by
          intro habove
          have hle := habove.length_le
          rw [List.length_append, List.length_singleton] at hle
          omega
        rw [hprovides.elsewhere _ hbeyond, List.append_cons l, List.append_assoc]
        exact hrooted.get?_append_of_none h.absent
      obtain ⟨hmake, hfind⟩ := makeDirectory_child (h.addresses hfind₁) hnone
      have hput := hprovides.put (m := m)
      rw [List.append_assoc, List.cons_append] at hmake hfind hput
      rw [Path.child_below, List.cons_append] at hmake hfind
      have hparent : (q.below (n :: (ns ++ [m]))).parent = q.below (n :: ns) := by
        rw [← List.cons_append, ← Path.child_below, Path.parent_child]
      have hnames : (q.below (n :: (ns ++ [m]))).names ≠ [] := by simp [Path.below]
      refine ⟨_, ?_, hfind, hput⟩
      simp only [makeWithParents, h.makeDirectory (by simp), if_neg hnames, hparent, hparents]
      exact makeLast_of_makeDirectory hmake

/-- A missing directory is made with those above it, and nothing else changes. -/
theorem makeDirectories_of_missing (existingOk : Bool) (hrooted : fs.Rooted)
    (h : fs.Missing q l n ns) :
    ∃ fs', fs.makeDirectories existingOk (q.below (n :: ns)) = (.ok (), fs') ∧
      fs'.find (q.below (n :: ns)) = .ok (l ++ n :: ns, .directory) ∧
      fs.Provides (l ++ n :: ns) fs' := by
  refine makeWithParents_of_missing existingOk hrooted h ?_
  simp only [Path.below, List.length_append, List.length_cons]
  omega

end Scaffold.FileSystem
