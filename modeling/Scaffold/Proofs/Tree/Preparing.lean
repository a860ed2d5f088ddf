import Mathlib.Tactic.Lemma
import Scaffold.Proofs.FileSystem.Clearing
import Scaffold.Proofs.Tree.Stopping

/-!
# Preparing the directory of a project

* `Prepared`: the directory has been emptied, but for what is kept, or it has been made.
* `Preparing`: the same may have been done in part.
* `ends_prepareTarget`: preparing a directory leaves it prepared, or fails and leaves it so in part.
* `Prepared.get?_below`, `Prepared.get?_outside`: what lies where in the end.
* `Preparing.keeps`: nothing is lost when there is nothing in the directory, or no directory.
-/

namespace Scaffold.Tree

open FileSystem

variable {fs fs' : FileSystem} {p : Path} {out l : Location} {n : String} {e : Entry}
  {rest : List String}

/-! ## What preparing does -/

/-- The directory that a path leads to has been emptied, but for what is kept, or where there was
nothing it has been made. -/
inductive Prepared (fs : FileSystem) (p : Path) : FileSystem → Prop
  | emptied {d : Location} :
    fs.find p = .ok (d, .directory) → Prepared fs p (fs.clear d keptNames)
  | made {fs' : FileSystem} :
    fs.exists? p = .ok false → fs.makeDirectories false p = (.ok (), fs') → Prepared fs p fs'

/-- Nothing has changed, or nothing but what lies in the directory that a path leads to, or where there
was nothing some directories have been made. -/
inductive Preparing (fs : FileSystem) (p : Path) : FileSystem → Prop
  | untouched : Preparing fs p fs
  | emptied {d : Location} {fs' : FileSystem} :
    fs.find p = .ok (d, .directory) →
      (∀ l, (∀ n rest, l ≠ d ++ n :: rest) → fs'.get? l = fs.get? l) → Preparing fs p fs'
  | made {fs' : FileSystem} :
    fs.exists? p = .ok false → Relation.ReflTransGen Makes fs fs' → Preparing fs p fs'

/-- Files that are prepared are so without a fault. -/
lemma Prepared.preparing (h : Prepared fs p fs') : Preparing fs p fs' := by
  cases h with
  | emptied hfind => exact .emptied hfind fun l hl => get?_clear_outside hl
  | made hnot hmake => exact .made hnot (makes_of_makeDirectories hmake)

/-- Preparing a directory leaves it prepared, or fails and leaves it so in part. -/
theorem ends_prepareTarget {w : Workspace} (hrooted : w.files.Rooted) (p : Path) :
    Ends (Work.prepareTarget p) w (fun _ w' => Prepared w.files p w'.files)
      (fun problem w' => Preparing w.files p w'.files ∧
        ∃ f, problem = .ofFailure .prepareDirectory p f) := by
  refine Ends.bind (Work.ends_ask (fun isThere hexists => ?_) fun f _ => ⟨.untouched, f, rfl⟩)
  cases isThere with
  | true =>
      simp only [if_true]
      refine Work.ends_attempt (fun fs' hclear => ?_) fun f fs' hclear => ⟨?_, f, rfl⟩
      · rcases clearDirectory_cases hrooted hclear with ⟨f, hf, -⟩ | ⟨d, hfind, hfs', -⟩
        · cases hf
        · rw [hfs' rfl]
          exact .emptied hfind
      · rcases clearDirectory_cases hrooted hclear with ⟨-, -, rfl⟩ | ⟨d, hfind, -, houtside⟩
        · exact .untouched
        · exact .emptied hfind houtside
  | false =>
      simp only [Bool.false_eq_true, if_false]
      exact Work.ends_attempt (fun fs' hmake => .made hexists hmake)
        fun f fs' hmake => ⟨.made hexists (makes_of_makeDirectories hmake), f, rfl⟩

/-- There is one way to prepare a directory. -/
lemma Prepared.unique {fs'' : FileSystem} (h : Prepared fs p fs') (h' : Prepared fs p fs'') :
    fs' = fs'' := by
  cases h with
  | emptied hfind =>
      cases h' with
      | emptied hfind' =>
          rw [eq_of_find hfind hfind']
      | made hnot => exact absurd hfind (find_ne_ok_of_exists? hnot _)
  | made hnot hmake =>
      cases h' with
      | emptied hfind => exact absurd hfind (find_ne_ok_of_exists? hnot _)
      | made _ hmake' => exact (Prod.mk.inj (hmake.symm.trans hmake')).2

/-! ## What lies where -/

/-- Below a directory that has been prepared lies what is kept of what was there before. -/
lemma Prepared.get?_below (h : Prepared fs p fs') (hrooted : fs.Rooted)
    (hout : fs'.find p = .ok (out, .directory)) :
    fs'.get? (out ++ n :: rest) =
      if n ∈ keptNames then fs.get? (out ++ n :: rest) else none := by
  cases h with
  | @emptied d hfind =>
      obtain rfl := eq_of_find_clear hfind hout
      exact get?_clear_below
  | made hnot hmake =>
      obtain ⟨l, hfind, hnone, hempty⟩ := hrooted.get?_append_of_makeDirectories hmake
      obtain rfl := eq_of_find hfind hout
      rw [hempty _ (by simp), hrooted.get?_append_of_none hnone]
      simp

/-- Elsewhere nothing changes, but for directories that are made on the way. -/
lemma Prepared.get?_outside (h : Prepared fs p fs') (hout : fs'.find p = .ok (out, .directory))
    (hl : ∀ n rest, l ≠ out ++ n :: rest) :
    fs'.get? l = fs.get? l ∨
      fs.get? l = none ∧ fs'.get? l = some .directory ∧
        ∃ q, Passes p q ∧ fs'.find q = .ok (l, .directory) := by
  cases h with
  | @emptied d hfind =>
      obtain rfl := eq_of_find_clear hfind hout
      exact .inl (get?_clear_outside hl)
  | made hnot hmake =>
      obtain ⟨made, hprepares⟩ := makeDirectories_prepares hmake
      by_cases hnew : l ∈ made
      · exact .inr ⟨hprepares.new l hnew, hprepares.get?_of_mem hnew, hprepares.passed l hnew⟩
      · exact .inl (hprepares.get?_of_notMem hnew)

/-- What preparing a directory takes away lay below it. -/
lemma Prepared.get?_cases (h : Prepared fs p fs') (hget : fs.get? l = some e) :
    fs'.get? l = some e ∨ ∃ d n rest, fs.find p = .ok (d, .directory) ∧ l = d ++ n :: rest ∧
      n ∉ keptNames := by
  cases h with
  | @emptied d hfind =>
      by_cases hl : ∃ n rest, l = d ++ n :: rest
      · obtain ⟨n, rest, rfl⟩ := hl
        rw [get?_clear_below]
        by_cases hn : n ∈ keptNames
        · exact .inl (by rw [if_pos hn, hget])
        · exact .inr ⟨d, n, rest, hfind, rfl, hn⟩
      · rw [get?_clear_outside fun n rest heq => hl ⟨n, rest, heq⟩]
        exact .inl hget
  | made hnot hmake => exact .inl (keeps_of_makes (makes_of_makeDirectories hmake) _ _ hget)

/-! ## Where there is nothing to lose -/

/-- There is no directory at a path, or there is nothing in it. -/
def Vacant (fs : FileSystem) (p : Path) : Prop :=
  fs.exists? p = .ok false ∨ fs.list p = .ok []

/-- Nothing is lost when there is nothing in the directory that is prepared, or no directory. -/
lemma Preparing.keeps (h : Preparing fs p fs') (hrooted : fs.Rooted) (hvacant : Vacant fs p) :
    Keeps fs fs' := by
  cases h with
  | untouched => exact .refl fs
  | @emptied d fs' hfind houtside =>
      rcases hvacant with hnot | hlist
      · exact absurd hfind (find_ne_ok_of_exists? hnot _)
      · rw [list_of_find hfind, Except.ok.injEq] at hlist
        exact hrooted.keeps_of_empty hlist houtside
  | made _ hmakes => exact keeps_of_makes hmakes

/-- A directory in which there was nothing is there once it is prepared, and there is nothing in it
then. -/
lemma Prepared.exists_find (h : Prepared fs p fs') (hrooted : fs.Rooted) (hvacant : Vacant fs p) :
    ∃ out, fs'.find p = .ok (out, .directory) ∧ ∀ rest, rest ≠ [] → fs'.get? (out ++ rest) = none := by
  cases h with
  | @emptied d hfind =>
      rcases hvacant with hnot | hlist
      · exact absurd hfind (find_ne_ok_of_exists? hnot _)
      · rw [list_of_find hfind, Except.ok.injEq] at hlist
        refine ⟨d, find_of_grows ((hrooted.keeps_clear hlist keptNames).grows rfl) hfind, ?_⟩
        intro rest hrest
        cases hget : (fs.clear d keptNames).get? (d ++ rest) with
        | none => rfl
        | some e =>
            have hbefore := keeps_of_clear fs d keptNames _ _ hget
            rw [hrooted.get?_append_of_listing hlist hrest] at hbefore
            cases hbefore
  | made _ hmake =>
      obtain ⟨l, hfind, -, hempty⟩ := hrooted.get?_append_of_makeDirectories hmake
      exact ⟨l, hfind, hempty⟩

end Scaffold.Tree
