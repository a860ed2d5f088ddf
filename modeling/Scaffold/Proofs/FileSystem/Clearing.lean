import Mathlib.Data.List.Basic
import Mathlib.Tactic.Lemma
import Scaffold.Proofs.FileSystem.Finding
import Scaffold.Proofs.FileSystem.Rooted
import Scaffold.Tree.Target

/-!
# Emptying a directory

Entries of a directory are taken away one after the other, and directories after all that lies below them.
What that comes to is said here at once: entries below the directory go if they lie at or below one of
some names, and no other entry does.

* `thin`, `clear`: the directory at a location left with the entries of some names, or emptied but for
  these. `get?_clear_below` and `get?_clear_outside` say what lies where then.
* `removeBelow_eq`: to take away all that lies in a directory, entry by entry, is to clear it.
* `locate_of_entryIn`: the entry that is taken away is what its path leads to, without following a link.
* `removeEntry_cases`: an entry goes with all that lies below it, or there is a failure. A link goes itself.
* `clearDirectory_cases`: emptying the directory that a path leads to clears it, if it succeeds. Nothing
  else changes, also when it fails on the way.
* `Rooted.keeps_clear`: nothing is lost when an empty directory is emptied.
-/

namespace Scaffold.FileSystem

variable {fs fs' fs'' : FileSystem} {p : Path} {d l l' : Location} {kept names : List String}
  {keep keep' : String → Bool} {n : String} {e : Entry} {rest : List String} {k : Nat}
  {outcome : Except Failure Unit}

/-! ## A directory left with entries of some names -/

/-- An entry at `l` stays when the directory at `d` is left with the names that are kept: it does not lie
in the directory, or lies at or below an entry of such a name. -/
def stays (d : Location) (keep : String → Bool) (l : Location) : Bool :=
  match d.isPrefixOf? l with
  | some (n :: _) => keep n
  | _ => true

/-- The directory at a location left with the entries of the names that are kept, and with all that lies
below these. -/
def thin (fs : FileSystem) (d : Location) (keep : String → Bool) : FileSystem :=
  { fs with entries := fs.entries.filter fun x => stays d keep x.1 }

/-- The directory at a location emptied, but for entries of some names. -/
def clear (fs : FileSystem) (d : Location) (kept : List String) : FileSystem :=
  fs.thin d fun n => decide (n ∈ kept)

/-- What is below a directory stays if its first name there is kept. -/
lemma stays_append (d : Location) (keep : String → Bool) (n : String) (rest : List String) :
    stays d keep (d ++ n :: rest) = keep n := by
  have hprefix : d.isPrefixOf? (d ++ n :: rest) = some (n :: rest) :=
    List.isPrefixOf?_eq_some_iff_append_eq.mpr rfl
  rw [stays, hprefix]

/-- What is not below a directory stays. -/
lemma stays_of_outside (h : ∀ n rest, l ≠ d ++ n :: rest) : stays d keep l = true := by
  unfold stays
  split
  · rename_i n rest hprefix
    exact absurd (List.isPrefixOf?_eq_some_iff_append_eq.mp hprefix).symm (h n rest)
  · rfl

/-- A location lies below the directory, at or below an entry of some name, or elsewhere. -/
lemma below_or_outside (d l : Location) :
    (∃ n rest, l = d ++ n :: rest) ∨ ∀ n rest, l ≠ d ++ n :: rest := by
  by_cases h : ∃ n rest, l = d ++ n :: rest
  · exact .inl h
  · exact .inr fun n rest heq => h ⟨n, rest, heq⟩

/-- A thinned directory has what stays. -/
lemma get?_thin (fs : FileSystem) (d : Location) (keep : String → Bool) (hl : l ≠ []) :
    (fs.thin d keep).get? l = if stays d keep l then fs.get? l else none := by
  simp only [get?, thin, if_neg hl, lookup_filter]

/-- What is below a kept name is as it was, and the rest is gone. -/
lemma get?_thin_below :
    (fs.thin d keep).get? (d ++ n :: rest) = if keep n then fs.get? (d ++ n :: rest) else none := by
  rw [get?_thin fs d keep (by simp), stays_append]

/-- Elsewhere nothing changes. -/
lemma get?_thin_outside (h : ∀ n rest, l ≠ d ++ n :: rest) : (fs.thin d keep).get? l = fs.get? l := by
  by_cases hl : l = []
  · rw [hl, get?_nil, get?_nil]
  · rw [get?_thin fs d keep hl, stays_of_outside h, if_pos rfl]

/-- Nothing is put anywhere. -/
lemma keeps_of_thin (fs : FileSystem) (d : Location) (keep : String → Bool) :
    Keeps (fs.thin d keep) fs := by
  intro l e hget
  rcases below_or_outside d l with ⟨n, rest, rfl⟩ | houtside
  · rw [get?_thin_below] at hget
    split at hget
    · exact hget
    · cases hget
  · rwa [get?_thin_outside houtside] at hget

/-- Names may be taken away at once or one after the other. -/
lemma thin_thin : (fs.thin d keep).thin d keep' = fs.thin d fun n => keep n && keep' n := by
  simp only [thin, List.filter_filter, FileSystem.mk.injEq, and_true]
  refine List.filter_congr fun x _ => ?_
  rcases below_or_outside d x.1 with ⟨n, rest, hx⟩ | houtside
  · rw [hx, stays_append, stays_append, stays_append, Bool.and_comm]
  · rw [stays_of_outside houtside, stays_of_outside houtside, stays_of_outside houtside]
    rfl

/-- Nothing goes where all is kept. -/
lemma thin_of_keep (h : ∀ n, keep n = true) : fs.thin d keep = fs := by
  have hstays : ∀ l, stays d keep l = true := by
    intro l
    rcases below_or_outside d l with ⟨n, rest, rfl⟩ | houtside
    · rw [stays_append, h]
    · exact stays_of_outside houtside
  simp [thin, hstays]

/-- What is listed is there. -/
lemma isSome_of_mem_entries {x : Location × Entry} (h : x ∈ fs.entries) : (fs.get? x.1).isSome := by
  unfold get?
  split
  · rfl
  · cases hlookup : fs.entries.lookup x.1 with
    | some e => rfl
    | none =>
        have hne := List.lookup_eq_none_iff.mp hlookup x h
        simp at hne

/-- Entries stay rooted when names of a directory are taken away with all that lies below. -/
lemma Rooted.thin (h : fs.Rooted) (d : Location) (keep : String → Bool) : (fs.thin d keep).Rooted := by
  intro d' m hsome
  obtain ⟨e, hget⟩ := Option.isSome_iff_exists.mp hsome
  have hdirectory := h d' m (by rw [keeps_of_thin fs d keep _ _ hget]; rfl)
  rcases below_or_outside d d' with ⟨n, rest, rfl⟩ | houtside
  · rw [List.append_assoc, List.cons_append, get?_thin_below] at hget
    rw [get?_thin_below, hdirectory]
    split at hget
    · rw [if_pos ‹_›]
    · cases hget
  · rw [get?_thin_outside houtside, hdirectory]

/-- It only matters which names are kept of those that are there. -/
lemma Rooted.thin_congr (h : fs.Rooted) (hkeep : ∀ n ∈ fs.listing d, keep n = keep' n) :
    fs.thin d keep = fs.thin d keep' := by
  simp only [FileSystem.thin, FileSystem.mk.injEq, and_true]
  refine List.filter_congr fun x hx => ?_
  rcases below_or_outside d x.1 with ⟨n, rest, heq⟩ | houtside
  · obtain ⟨e, hget⟩ := Option.isSome_iff_exists.mp (isSome_of_mem_entries hx)
    rw [heq] at hget
    have hmem : n ∈ fs.listing d := mem_listing.mpr (mem_children.mp (h.mem_children_of_get? hget))
    rw [heq, stays_append, stays_append, hkeep n hmem]
  · rw [stays_of_outside houtside, stays_of_outside houtside]

/-! ## An emptied directory -/

/-- Below a directory that has been emptied lies what is kept. -/
lemma get?_clear_below :
    (fs.clear d kept).get? (d ++ n :: rest) =
      if n ∈ kept then fs.get? (d ++ n :: rest) else none := by
  rw [clear, get?_thin_below]
  simp

/-- Elsewhere nothing changes when a directory is emptied. -/
lemma get?_clear_outside (h : ∀ n rest, l ≠ d ++ n :: rest) :
    (fs.clear d kept).get? l = fs.get? l :=
  get?_thin_outside h

/-- A directory elsewhere has the same entries when a directory is emptied. -/
lemma children_clear (h : ∀ n rest, ∀ m, l ++ [m] ≠ d ++ n :: rest) :
    (fs.clear d kept).children l = fs.children l := by
  have hentries : ((fs.entries.filter fun x => stays d (fun n => decide (n ∈ kept)) x.1).filterMap
      fun x => childName? l x.1) = fs.entries.filterMap fun x => childName? l x.1 := by
    rw [List.filterMap_filter]
    congr 1
    funext x
    cases hname : childName? l x.1 with
    | none => simp
    | some m =>
        rw [childName?_eq_some_iff.mp hname, stays_of_outside fun n rest => h n rest m]
        simp
  simp only [children, listing, clear, thin, hentries]

/-- Emptying a directory puts nothing anywhere. -/
lemma keeps_of_clear (fs : FileSystem) (d : Location) (kept : List String) :
    Keeps (fs.clear d kept) fs :=
  keeps_of_thin fs d _

/-- A path that leads to a directory after one has been emptied led there before as well. -/
lemma eq_of_find_clear (hbefore : fs.find p = .ok (l, .directory))
    (hafter : (fs.clear d kept).find p = .ok (l', .directory)) : l = l' :=
  eq_of_find hbefore (find_of_grows ((keeps_of_clear fs d kept).grows rfl) hafter)

/-- Nothing is lost when something changes only in an empty directory. -/
lemma Rooted.keeps_of_empty (h : fs.Rooted) (hempty : fs.listing d = [])
    (houtside : ∀ l, (∀ n rest, l ≠ d ++ n :: rest) → fs'.get? l = fs.get? l) : Keeps fs fs' := by
  intro l e hget
  rw [houtside l, hget]
  rintro n rest rfl
  rw [h.get?_append_of_listing hempty (by simp)] at hget
  cases hget

/-- Nothing is lost when an empty directory is emptied. -/
lemma Rooted.keeps_clear (h : fs.Rooted) (hempty : fs.listing d = []) (kept : List String) :
    Keeps fs (fs.clear d kept) :=
  h.keeps_of_empty hempty fun _ hl => get?_clear_outside hl

/-! ## All that lies in a directory -/

/-- An entry below which nothing lies goes with its name. -/
lemma erase_eq_thin (hbelow : ∀ m rest, fs.get? (d ++ n :: m :: rest) = none) :
    fs.erase (d ++ [n]) = fs.thin d fun m => decide (m ≠ n) := by
  simp only [erase, thin, FileSystem.mk.injEq, and_true]
  refine List.filter_congr fun x hx => ?_
  rcases below_or_outside d x.1 with ⟨m, rest, heq⟩ | houtside
  · rw [heq, stays_append, decide_eq_decide]
    refine not_congr ⟨fun h => (List.cons.inj (List.append_cancel_left h)).1, ?_⟩
    · rintro rfl
      cases rest with
      | nil => rfl
      | cons m' rest =>
          have hsome := isSome_of_mem_entries hx
          rw [heq, hbelow] at hsome
          cases hsome
  · rw [stays_of_outside houtside, decide_eq_true (houtside n [])]

/-- A name goes at once, whether the directory of that name has been emptied before or not. -/
lemma thin_clear (hn : keep n = false) : (fs.clear (d ++ [n]) []).thin d keep = fs.thin d keep := by
  simp only [clear, thin, List.filter_filter, FileSystem.mk.injEq, and_true]
  refine List.filter_congr fun x _ => ?_
  rcases below_or_outside d x.1 with ⟨m, rest, heq⟩ | houtside
  · rw [heq, stays_append]
    by_cases hm : m = n
    · rw [hm, hn]
      rfl
    · rw [stays_of_outside, Bool.and_true]
      intro n' rest' h
      rw [List.append_assoc] at h
      exact hm (List.cons.inj (List.append_cancel_left h)).1
  · rw [stays_of_outside houtside, stays_of_outside, Bool.and_true]
    intro n' rest' h
    rw [List.append_assoc] at h
    exact houtside n (n' :: rest') h

/-- A directory that has been emptied goes with its name. -/
lemma erase_clear : (fs.clear (d ++ [n]) []).erase (d ++ [n]) = fs.thin d fun m => decide (m ≠ n) := by
  rw [erase_eq_thin, thin_clear (by simp)]
  intro m rest
  rw [List.append_cons d n (m :: rest), get?_clear_below]
  simp

/-- Anything but a directory goes with its name. -/
lemma Rooted.erase_of_ne (h : fs.Rooted) (hget : fs.get? (d ++ [n]) ≠ some .directory) :
    fs.erase (d ++ [n]) = fs.thin d fun m => decide (m ≠ n) := by
  refine erase_eq_thin fun m rest => ?_
  rw [← Option.not_isSome_iff_eq_none]
  intro hsome
  rw [List.append_cons d n (m :: rest)] at hsome
  exact hget (h.get?_of_append (by simp) hsome)

/-- An entry goes with its name if the directory of that name, should it be one, is cleared first. -/
lemma Rooted.removeIn (h : fs.Rooted) {empty : FileSystem → Location → FileSystem}
    (hempty : empty fs (d ++ [n]) = fs.clear (d ++ [n]) []) :
    fs.removeIn empty d n = fs.thin d fun m => decide (m ≠ n) := by
  unfold FileSystem.removeIn
  split
  · rw [hempty, erase_clear]
  · exact h.erase_of_ne ‹_›

/-- Entries go with their names, one after the other, if directories are cleared first. -/
lemma Rooted.foldl_removeIn {empty : FileSystem → Location → FileSystem}
    (hempty : ∀ fs n, fs.Rooted → (∀ x ∈ fs.entries, x.1.length ≤ k) →
      empty fs (d ++ [n]) = fs.clear (d ++ [n]) []) (h : fs.Rooted)
    (hdeep : ∀ x ∈ fs.entries, x.1.length ≤ k) (names : List String) :
    names.foldl (FileSystem.removeIn empty d) fs = fs.thin d fun m => decide (m ∉ names) := by
  induction names generalizing fs with
  | nil => exact (thin_of_keep (by simp)).symm
  | cons n names ih =>
      rw [List.foldl_cons, h.removeIn (hempty fs n h hdeep),
        ih (h.thin d _) fun x hx => hdeep x (List.mem_filter.mp hx).1, thin_thin]
      congr 1
      funext m
      simp

/-- **All that lies in a directory goes.** To take away the entries of a directory, and of the directories
below it first, each by itself, is to clear the directory, if entries lie no deeper below it than was
given. -/
lemma Rooted.removeBelow (h : fs.Rooted) (hdeep : ∀ x ∈ fs.entries, x.1.length ≤ d.length + k) :
    FileSystem.removeBelow k fs d = fs.clear d [] := by
  induction k generalizing fs d with
  | zero =>
      -- nothing lies below the directory
      have hnone : ∀ n ∈ fs.listing d, true = decide (n ∈ []) := by
        intro n hn
        obtain ⟨e, hget⟩ := Option.isSome_iff_exists.mp (mem_listing.mp hn)
        have hlength := hdeep _ ((mem_entries_of_get? hget).resolve_left (by simp))
        rw [List.length_append, List.length_singleton] at hlength
        omega
      rw [clear, ← h.thin_congr hnone]
      exact (thin_of_keep fun _ => rfl).symm
  | succ k ih =>
      have hempty : ∀ (fs : FileSystem) n, fs.Rooted →
          (∀ x ∈ fs.entries, x.1.length ≤ d.length + (k + 1)) →
          FileSystem.removeBelow k fs (d ++ [n]) = fs.clear (d ++ [n]) [] := by
        intro fs n hrooted hdeep
        refine ih hrooted fun x hx => ?_
        have hlength := hdeep x hx
        rw [List.length_append, List.length_singleton]
        omega
      rw [FileSystem.removeBelow, h.foldl_removeIn hempty hdeep]
      refine h.thin_congr fun n hn => ?_
      simp [hn]

/-- No entry lies deeper than the height says. -/
lemma length_le_height {x : Location × Entry} (h : x ∈ fs.entries) : x.1.length ≤ fs.height := by
  unfold height
  generalize fs.entries = entries at h
  induction entries with
  | nil => cases h
  | cons y ys ih =>
      rw [List.foldr_cons]
      rcases List.mem_cons.mp h with rfl | h
      · exact Nat.le_max_left _ _
      · exact Nat.le_trans (ih h) (Nat.le_max_right _ _)

/-- With as many steps as the files are high, all that is below a directory is removed. -/
lemma Rooted.removeBelow_height (h : fs.Rooted) (d : Location) :
    FileSystem.removeBelow fs.height fs d = fs.clear d [] :=
  h.removeBelow fun _ hx => Nat.le_trans (length_le_height hx) (Nat.le_add_left _ _)

/-! ## One entry -/

/-- An entry of a directory is found where the directory leads. -/
lemma entryIn_eq_ok (h : fs.entryIn p n = .ok (l, e)) :
    ∃ d, fs.find p = .ok (d, .directory) ∧ l = d ++ [n] ∧ fs.get? (d ++ [n]) = some e := by
  unfold entryIn at h
  split at h
  · rename_i d hfind
    split at h
    · rename_i e' hget
      obtain ⟨rfl, rfl⟩ := Prod.mk.inj (Except.ok.inj h)
      exact ⟨d, hfind, rfl, hget⟩
    · cases h
  · cases h
  · cases h

/-- What lies in a directory that is found is found as its entry. -/
lemma entryIn_of_find (hfind : fs.find p = .ok (d, .directory)) (hget : fs.get? (d ++ [n]) = some e) :
    fs.entryIn p n = .ok (d ++ [n], e) := by
  simp [entryIn, hfind, hget]

/-- The entry of a name in a directory is what the path of that entry leads to, if no link is followed at
the end of it. -/
lemma locate_of_entryIn (h : fs.entryIn p n = .ok (l, e)) (hname : IsPlainName n)
    (hfits : Fits (p.child n)) : fs.locate false (p.child n) = .ok (.present l e) := by
  obtain ⟨d, hfind, rfl, hget⟩ := entryIn_eq_ok h
  rw [locate_child_unfollowed ⟨hfind, hname, hfits⟩, placeIn, hget]

/-- What comes of taking an entry away that is no directory. -/
lemma unlink_cases (hrooted : fs.Rooted) (h : fs.unlink p n = (outcome, fs')) :
    (∃ f, outcome = .error f ∧ fs' = fs) ∨
      ∃ d, fs.find p = .ok (d, .directory) ∧ outcome = .ok () ∧
        fs' = fs.thin d fun m => decide (m ≠ n) := by
  unfold unlink at h
  split at h
  · obtain ⟨rfl, rfl⟩ := Prod.mk.inj h
    exact .inl ⟨_, rfl, rfl⟩
  · rename_i l e hnot hentry
    obtain ⟨rfl, rfl⟩ := Prod.mk.inj h
    obtain ⟨d, hfind, rfl, hget⟩ := entryIn_eq_ok hentry
    refine .inr ⟨d, hfind, rfl, hrooted.erase_of_ne fun hdir => ?_⟩
    obtain rfl := Option.some.inj (hget.symm.trans hdir)
    exact hnot rfl
  · obtain ⟨rfl, rfl⟩ := Prod.mk.inj h
    exact .inl ⟨_, rfl, rfl⟩

/-- What comes of taking a directory away in which there is nothing any more. -/
lemma removeDirectory_clear_cases (hfind : fs.find p = .ok (d, .directory))
    (h : (fs.clear (d ++ [n]) []).removeDirectory p n = (outcome, fs')) :
    (∃ f, outcome = .error f ∧ fs' = fs.clear (d ++ [n]) []) ∨
      outcome = .ok () ∧ fs' = fs.thin d fun m => decide (m ≠ n) := by
  unfold removeDirectory at h
  split at h
  · rename_i l hentry
    obtain ⟨d', hfind', rfl, -⟩ := entryIn_eq_ok hentry
    obtain rfl := eq_of_find_clear hfind hfind'
    split at h
    · obtain ⟨rfl, rfl⟩ := Prod.mk.inj h
      exact .inr ⟨rfl, erase_clear⟩
    · obtain ⟨rfl, rfl⟩ := Prod.mk.inj h
      exact .inl ⟨_, rfl, rfl⟩
  · obtain ⟨rfl, rfl⟩ := Prod.mk.inj h
    exact .inl ⟨_, rfl, rfl⟩
  · obtain ⟨rfl, rfl⟩ := Prod.mk.inj h
    exact .inl ⟨_, rfl, rfl⟩

/-- What comes of taking away an entry of the directory that a path leads to: it goes, with all that lies
below it; or nothing changes; or it was a directory and is left empty, as the path does not lead to where it
lies any more. -/
lemma removeEntry_cases (hrooted : fs.Rooted) (h : fs.removeEntry p n = (outcome, fs')) :
    (∃ f, outcome = .error f ∧ fs' = fs) ∨
      ∃ d, fs.find p = .ok (d, .directory) ∧
        ((∃ f, outcome = .error f ∧ fs' = fs.clear (d ++ [n]) []) ∨
          outcome = .ok () ∧ fs' = fs.thin d fun m => decide (m ≠ n)) := by
  unfold removeEntry at h
  split at h
  · split at h
    · unfold removeTree at h
      split at h
      · rename_i l hentry
        obtain ⟨d, hfind, rfl, -⟩ := entryIn_eq_ok hentry
        rw [hrooted.removeBelow_height] at h
        exact .inr ⟨d, hfind, removeDirectory_clear_cases hfind h⟩
      · obtain ⟨rfl, rfl⟩ := Prod.mk.inj h
        exact .inl ⟨_, rfl, rfl⟩
      · obtain ⟨rfl, rfl⟩ := Prod.mk.inj h
        exact .inl ⟨_, rfl, rfl⟩
    · rcases unlink_cases hrooted h with hfails | ⟨d, hfind, hdone⟩
      · exact .inl hfails
      · exact .inr ⟨d, hfind, .inr hdone⟩
  · obtain ⟨rfl, rfl⟩ := Prod.mk.inj h
    exact .inl ⟨_, rfl, rfl⟩

/-! ## The directory that a path leads to -/

/-- Taking entries out of a directory one by one leaves the others if it succeeds, and changes nothing
else, also when it fails on the way. The path may come to lead nowhere meanwhile, but to no other
directory. -/
lemma clearEntries_cases (hrooted : fs.Rooted) (hd : ∀ l, fs.find p = .ok (l, .directory) → l = d)
    (h : clearEntries kept p fs names = (outcome, fs')) :
    (outcome = .ok () → fs' = fs.thin d fun m => decide (m ∈ names → m ∈ kept)) ∧
      ∀ l, (∀ n rest, l ≠ d ++ n :: rest) → fs'.get? l = fs.get? l := by
  induction names generalizing fs with
  | nil =>
      obtain ⟨-, rfl⟩ := Prod.mk.inj h
      exact ⟨fun _ => (thin_of_keep (by simp)).symm, fun _ _ => rfl⟩
  | cons n ns ih =>
      rw [clearEntries] at h
      by_cases hn : n ∈ kept
      · rw [if_pos hn] at h
        obtain ⟨hdone, houtside⟩ := ih hrooted hd h
        refine ⟨fun hok => ?_, houtside⟩
        rw [hdone hok]
        congr 1
        funext m
        by_cases hm : m = n
        · simp [hm, hn]
        · simp [hm]
      rw [if_neg hn] at h
      have hbelow : ∀ l, (∀ n rest, l ≠ d ++ n :: rest) → ∀ m rest, l ≠ d ++ [n] ++ m :: rest := by
        intro l hl m rest
        rw [List.append_assoc]
        exact hl n (m :: rest)
      split at h
      · rename_i fs₁ hentry
        rcases removeEntry_cases hrooted hentry with ⟨f, hf, -⟩ | ⟨d', hfind, ⟨f, hf, -⟩ | ⟨-, rfl⟩⟩
        · cases hf
        · cases hf
        obtain rfl := hd d' hfind
        have hd₁ : ∀ l, (fs.thin d' fun m => decide (m ≠ n)).find p = .ok (l, .directory) → l = d' :=
          fun l hl => hd l (find_of_grows ((keeps_of_thin fs d' _).grows rfl) hl)
        obtain ⟨hdone, houtside⟩ := ih (hrooted.thin d' _) hd₁ h
        refine ⟨fun hok => ?_, fun l hl => ?_⟩
        · rw [hdone hok, thin_thin]
          congr 1
          funext m
          by_cases hm : m = n
          · simp [hm, hn]
          · simp [hm]
        · rw [houtside l hl, get?_thin_outside hl]
      · rename_i f fs₁ hentry
        obtain ⟨rfl, rfl⟩ := Prod.mk.inj h
        refine ⟨nofun, fun l hl => ?_⟩
        rcases removeEntry_cases hrooted hentry with
          ⟨f, -, rfl⟩ | ⟨d', hfind, ⟨f, -, rfl⟩ | ⟨-, rfl⟩⟩
        · rfl
        · rw [hd d' hfind, get?_clear_outside (hbelow l hl)]
        · rw [hd d' hfind, get?_thin_outside hl]

/-- Emptying the directory that a path leads to clears it if it succeeds, in whatever order its entries
are listed, and changes nothing else, also when it fails on the way. -/
lemma clearDirectory_cases (hrooted : fs.Rooted) (h : fs.clearDirectory kept p = (outcome, fs')) :
    (∃ f, outcome = .error f ∧ fs' = fs) ∨
      ∃ d, fs.find p = .ok (d, .directory) ∧ (outcome = .ok () → fs' = fs.clear d kept) ∧
        ∀ l, (∀ n rest, l ≠ d ++ n :: rest) → fs'.get? l = fs.get? l := by
  unfold clearDirectory at h
  split at h
  · rename_i names hlist
    obtain ⟨d, hfind, rfl⟩ := find_of_list hlist
    obtain ⟨hdone, houtside⟩ := clearEntries_cases hrooted (fun l hl => eq_of_find hl hfind) h
    refine .inr ⟨d, hfind, fun hok => (hdone hok).trans (hrooted.thin_congr fun n hn => ?_), houtside⟩
    simp [hn]
  · obtain ⟨rfl, rfl⟩ := Prod.mk.inj h
    exact .inl ⟨_, rfl, rfl⟩

/-- A path of which the system says that it leads to nothing does not lead anywhere. -/
lemma find_ne_ok_of_exists? (h : fs.exists? p = .ok false) (x : Location × Entry) :
    fs.find p ≠ .ok x := by
  intro hfind
  simp [exists?, ask, hfind] at h

/-- A path of which the system says that it leads to something leads somewhere. -/
lemma exists_find_of_exists? (h : fs.exists? p = .ok true) : ∃ x, fs.find p = .ok x := by
  unfold exists? ask at h
  cases hfind : fs.find p with
  | ok x => exact ⟨x, rfl⟩
  | error f =>
      rw [hfind] at h
      dsimp only at h
      split at h <;> cases h

end Scaffold.FileSystem
