import Mathlib.Logic.Relation
import Mathlib.Tactic.Lemma
import Scaffold.Proofs.FileSystem.Overlay

/-!
# Entries gained one by one

* `Gains`: one entry of a certain sort is laid down, where nothing of another kind lies.
* `get?_of_gains`, `kind_of_gains`: what is left of the file system before.
* `exists_of_gains`: whatever lies somewhere afterwards lay there before, or has been gained.
* `gains_isSome`: whatever has been gained is there in the end.
-/

namespace Scaffold.FileSystem

open Relation

variable {S S' : Location × Entry → Prop} {fs fs' : FileSystem} {x : Location × Entry}
  {l : Location} {e : Entry}

/-- One entry of the sort `S` is laid down, where nothing of another kind lies. -/
def Gains (S : Location × Entry → Prop) (fs fs' : FileSystem) : Prop :=
  ∃ x, S x ∧ fs.Takes [x] ∧ fs' = fs.deposit x

/-- An entry is gained where the files take it. -/
lemma Gains.intro (hS : S x) (htakes : fs.Takes [x]) : Gains S fs (fs.deposit x) :=
  ⟨x, hS, htakes, rfl⟩

/-- What is of one sort may be of another one as well. -/
lemma gains_mono (hS : ∀ x, S x → S' x) (h : ReflTransGen (Gains S) fs fs') :
    ReflTransGen (Gains S') fs fs' := by
  refine ReflTransGen.mono ?_ fs fs' h
  rintro _ _ ⟨x, hx, htakes, rfl⟩
  exact .intro (hS x hx) htakes

/-- Directories and links stay where they are. -/
lemma grows_of_gains (h : ReflTransGen (Gains S) fs fs') : Grows fs fs' := by
  induction h with
  | refl => exact .refl fs
  | tail _ hgains ih =>
      obtain ⟨x, -, htakes, rfl⟩ := hgains
      exact ih.trans (htakes.grows_deposit List.mem_cons_self)

/-- Where nothing can be gained, everything stays. -/
lemma get?_of_gains (h : ReflTransGen (Gains S) fs fs') (hl : ∀ x, S x → l ≠ x.1) :
    fs'.get? l = fs.get? l := by
  induction h with
  | refl => rfl
  | tail _ hgains ih =>
      obtain ⟨x, hx, -, rfl⟩ := hgains
      rw [get?_deposit_of_ne (hl x hx), ih]

/-- What lies somewhere is replaced at most by something of its kind. -/
lemma kind_of_gains (h : ReflTransGen (Gains S) fs fs') (hget : fs.get? l = some e) :
    ∃ e', fs'.get? l = some e' ∧ e'.kind = e.kind := by
  induction h with
  | refl => exact ⟨e, hget, rfl⟩
  | tail _ hgains ih =>
      obtain ⟨x, -, htakes, rfl⟩ := hgains
      obtain ⟨e', hget', hkind⟩ := ih
      by_cases hl : l = x.1
      · subst hl
        rw [get?_deposit_self (htakes.not_root x List.mem_cons_self)]
        exact ⟨x.2, rfl, (htakes.present x List.mem_cons_self e' hget').symm.trans hkind⟩
      · rw [get?_deposit_of_ne hl]
        exact ⟨e', hget', hkind⟩

/-- Whatever lies somewhere lay there before, or has been gained. -/
lemma exists_of_gains (h : ReflTransGen (Gains S) fs fs') (hget : fs'.get? l = some e) :
    fs.get? l = some e ∨ S (l, e) := by
  induction h with
  | refl => exact .inl hget
  | tail _ hgains ih =>
      obtain ⟨x, hx, htakes, rfl⟩ := hgains
      by_cases hl : l = x.1
      · subst hl
        rw [get?_deposit_self (htakes.not_root x List.mem_cons_self)] at hget
        obtain rfl := Option.some.inj hget
        exact .inr hx
      · rw [get?_deposit_of_ne hl] at hget
        exact ih hget

/-- Whatever has been gained is there in the end. -/
lemma gains_isSome (h : ReflTransGen (Gains S) fs fs') :
    ReflTransGen (Gains fun x => S x ∧ (fs'.get? x.1).isSome) fs fs' := by
  induction h with
  | refl => exact .refl
  | @tail mid _ _ hgains ih =>
      have hlast := hgains
      obtain ⟨x, hx, htakes, rfl⟩ := hgains
      have hself : (mid.deposit x).get? x.1 = some x.2 :=
        get?_deposit_self (htakes.not_root x List.mem_cons_self)
      refine ReflTransGen.tail (gains_mono (fun y hy => ⟨hy.1, ?_⟩) ih)
        (.intro ⟨hx, by rw [hself]; rfl⟩ htakes)
      obtain ⟨e, hget⟩ := Option.isSome_iff_exists.mp hy.2
      obtain ⟨e', hget', -⟩ := kind_of_gains (.single hlast) hget
      rw [hget']
      rfl

/-- No link is gained. -/
lemma get?_ne_link_of_gains (h : ReflTransGen (Gains S) fs fs')
    (hl : ∀ target, fs.get? l ≠ some (.link target)) (target : String) :
    fs'.get? l ≠ some (.link target) := by
  induction h with
  | refl => exact hl target
  | tail _ hgains ih =>
      obtain ⟨x, -, htakes, rfl⟩ := hgains
      by_cases heq : l = x.1
      · subst heq
        rw [get?_deposit_self (htakes.not_root x List.mem_cons_self)]
        intro hlink
        exact htakes.no_link x List.mem_cons_self (by rw [Option.some.inj hlink]; rfl)
      · rwa [get?_deposit_of_ne heq]

end Scaffold.FileSystem
