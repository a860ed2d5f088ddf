import Mathlib.Logic.Relation
import Mathlib.Tactic.Lemma
import Scaffold.Proofs.FileSystem.Gaining
import Scaffold.Proofs.FileSystem.Outcome
import Scaffold.Proofs.FileSystem.Rooted

/-!
# Changes at any path

A path may pass links and go back through two dots, so its names do not tell where it leads. What a
change does is told from the walk along the path instead.

* `walks_cases`: a walk ends at a directory, or one step below one.
* `write_eq_ok`: a file that is written is laid down where the path leads, and the path leads to it
  afterwards.
* `gains_of_makeDirectories_any`: making a directory with those above it lays down directories only.
* `find_file_of_grows`: a path that leads to a file leads there also after the file system has grown.
* `eq_of_find_child`: where the path of an entry leads, if the entry is no link.
-/

namespace Scaffold

/-- Where a walk ends, whether there is something or not. -/
def Place.location : Place → Location
  | .present l _ => l
  | .absent d n => d ++ [n]

namespace FileSystem

open Relation

variable {fs fs' : FileSystem} {followLast existingOk : Bool} {k : Nat} {p : Path}
  {d l l' : Location} {n : String} {ns : List String} {e : Entry} {r : Place}
  {content content' : ByteArray} {outcome : Except Failure Unit}

/-! ## Where walks end -/

@[simp] lemma location_placeIn (fs : FileSystem) (l : Location) (n : String) :
    (fs.placeIn l n).location = l ++ [n] := by
  unfold placeIn
  cases fs.get? (l ++ [n]) with
  | none => rfl
  | some e => rfl

/-- A walk ends at a directory, or one step below one. -/
lemma walks_cases (h : Walks fs followLast k d ns r) :
    (∃ l, r = .present l .directory) ∨ ∃ l n, IsStep n ∧ r = fs.placeIn l n := by
  induction h with
  | here k d => exact .inl ⟨d, rfl⟩
  | dot _ ih => exact ih
  | up _ ih => exact ih
  | down _ _ _ ih => exact ih
  | @absent d n k hn hget => exact .inr ⟨d, n, hn, by rw [placeIn, hget]⟩
  | @file d n content k hn hget => exact .inr ⟨d, n, hn, by rw [placeIn, hget]⟩
  | @link d n target k hn hget _ => exact .inr ⟨d, n, hn, by rw [placeIn, hget]⟩
  | follow _ _ _ _ ih => exact ih

/-- A walk that follows links to the end does not end at one. -/
lemma not_link_of_walks (h : Walks fs true k d ns (.present l e)) : e.kind ≠ .link := by
  generalize hr : Place.present l e = r at h
  induction h with
  | here k d =>
      obtain ⟨-, rfl⟩ := Place.present.inj hr
      exact Entry.directory_kind_ne_link
  | dot _ ih => exact ih hr
  | up _ ih => exact ih hr
  | down _ _ _ ih => exact ih hr
  | absent => cases hr
  | @file d n content k _ _ =>
      obtain ⟨-, rfl⟩ := Place.present.inj hr
      exact Entry.file_kind_ne_link content
  | link k _ _ hfalse => cases hfalse
  | follow _ _ _ _ ih => exact ih hr

/-- A walk that does not end at a directory ends at the same location after the file system has
grown, if there is a file then. -/
lemma walks_file_of_grows (hgrows : Grows fs fs') (h : Walks fs true k d ns r)
    (hr : ∀ l, r ≠ .present l .directory) (hget : fs'.get? r.location = some (.file content)) :
    Walks fs' true k d ns (.present r.location (.file content)) := by
  induction h with
  | here k d => exact absurd rfl (hr d)
  | dot _ ih => exact .dot (ih hr hget)
  | up _ ih => exact .up (ih hr hget)
  | down hn hdir _ ih => exact .down hn (hgrows.directory _ hdir) (ih hr hget)
  | absent k hn _ => exact .file k hn hget
  | file k hn _ => exact .file k hn hget
  | link k _ _ hfalse => cases hfalse
  | follow hn htarget hgoes _ ih => exact .follow hn (hgrows.link _ _ htarget) hgoes (ih hr hget)

/-- A path that leads to a file leads there also after the file system has grown, whatever the content
of the file is by then. -/
lemma find_file_of_grows (hgrows : Grows fs fs') (h : fs.find p = .ok (l, .file content))
    (hget : fs'.get? l = some (.file content')) : fs'.find p = .ok (l, .file content') := by
  rw [find_eq_ok_iff, locate_eq_ok_iff] at h ⊢
  obtain ⟨hnull, hshort, hstart, hwalk⟩ := h
  rw [hgrows.workingDirectory]
  refine ⟨hnull, hshort, fun habs => hgrows.directory _ (hstart habs), ?_⟩
  exact walk_of_walks (walks_file_of_grows hgrows (walks_of_walk hwalk) (by simp) hget)

/-- What a path leads to lies there, unless it is a directory. -/
lemma get?_of_find (h : fs.find p = .ok (l, e)) (he : e ≠ .directory) : fs.get? l = some e := by
  obtain ⟨-, -, -, hwalk⟩ := locate_eq_ok_iff.mp (find_eq_ok_iff.mp h)
  rcases walks_cases (walks_of_walk hwalk) with ⟨l', hdir⟩ | ⟨d, n, -, hplace⟩
  · exact absurd (Place.present.inj hdir).2 he
  · unfold placeIn at hplace
    cases hget : fs.get? (d ++ [n]) with
    | none => simp [hget] at hplace
    | some e' =>
        simp only [hget, Place.present.injEq] at hplace
        rw [hplace.1, hplace.2, hget]

/-- A path that can be read leads to a file. -/
lemma find_of_read (h : fs.read p = .ok content) : ∃ l, fs.find p = .ok (l, .file content) := by
  unfold read at h
  cases hfind : fs.find p with
  | error f => simp [hfind, bind, Except.bind] at h
  | ok x =>
      obtain ⟨l, e⟩ := x
      cases e with
      | directory => simp [hfind, bind, Except.bind] at h
      | link target => simp [hfind, bind, Except.bind] at h
      | file old =>
          simp only [hfind, bind, Except.bind, Except.ok.injEq] at h
          exact ⟨l, by rw [h]⟩

/-! ## Writing -/

/-- A file that is written is laid down where the path leads, where nothing else was, and the path leads
to it afterwards. -/
theorem write_eq_ok (h : fs.write p content = .ok fs') :
    ∃ d n, IsStep n ∧ fs.locate true p = .ok (fs.placeIn d n) ∧
      fs.Takes [(d ++ [n], .file content)] ∧ fs' = fs.deposit (d ++ [n], .file content) ∧
      fs'.find p = .ok (d ++ [n], .file content) := by
  unfold write at h
  cases hlocate : fs.locate true p with
  | error f => simp [hlocate, bind, Except.bind] at h
  | ok r =>
      obtain ⟨hnull, hshort, hstart, hwalk⟩ := locate_eq_ok_iff.mp hlocate
      have hwalks := walks_of_walk hwalk
      have hr : ∀ l, r ≠ .present l .directory := by
        rintro l rfl
        simp [hlocate, bind, Except.bind] at h
      obtain ⟨d, n, hn, rfl⟩ := (walks_cases hwalks).resolve_left (fun ⟨l, hl⟩ => hr l hl)
      -- with links followed to the end, there is a file or nothing
      have hkind : ∀ e, fs.get? (d ++ [n]) = some e → e.kind = .file := by
        intro e he
        rw [placeIn, he] at hr hwalks
        cases e with
        | directory => exact absurd rfl (hr _)
        | file old => rfl
        | link target => exact absurd rfl (not_link_of_walks hwalks)
      have hput : fs' = fs.deposit (d ++ [n], .file content) := by
        rw [hlocate, placeIn] at h
        rw [deposit_file]
        cases hget : fs.get? (d ++ [n]) with
        | none =>
            simp only [hget, bind, Except.bind, Except.ok.injEq] at h
            exact h.symm
        | some e =>
            simp only [hget, bind, Except.bind] at h
            cases e with
            | directory => cases h
            | file old => exact (Except.ok.inj h).symm
            | link target => exact (Except.ok.inj h).symm
      have htakes : fs.Takes [(d ++ [n], .file content)] :=
        takes_singleton hkind (Entry.file_kind_ne_link content) (by simp)
      have hgrows : Grows fs fs' := hput ▸ htakes.grows_deposit List.mem_cons_self
      have hget : fs'.get? (fs.placeIn d n).location = some (.file content) := by
        rw [location_placeIn, hput]
        exact get?_deposit_self (by simp)
      refine ⟨d, n, hn, rfl, htakes, hput, ?_⟩
      rw [find_eq_ok_iff, locate_eq_ok_iff, hgrows.workingDirectory]
      refine ⟨hnull, hshort, fun habs => hgrows.directory _ (hstart habs), ?_⟩
      have harrives := walk_of_walks (walks_file_of_grows hgrows hwalks hr hget)
      rwa [location_placeIn] at harrives

/-! ## Making directories -/

/-- A location that is one step below another one. -/
def EndsInStep (l : Location) : Prop :=
  ∃ d n, IsStep n ∧ l = d ++ [n]

/-- A directory is laid down where nothing was. -/
lemma gains_of_makeDirectory_any (h : fs.makeDirectory p = .ok fs') :
    Gains (fun x => x.2 = .directory ∧ fs.get? x.1 = none ∧ EndsInStep x.1) fs fs' := by
  unfold makeDirectory make at h
  cases hlocate : fs.locate false p with
  | error f => simp [hlocate, bind, Except.bind] at h
  | ok r =>
      obtain ⟨-, -, -, hwalk⟩ := locate_eq_ok_iff.mp hlocate
      rcases walks_cases (walks_of_walk hwalk) with ⟨l, rfl⟩ | ⟨d, n, hn, rfl⟩
      · simp [hlocate, bind, Except.bind] at h
      · rw [hlocate, placeIn] at h
        cases hget : fs.get? (d ++ [n]) with
        | some e => simp [hget, bind, Except.bind] at h
        | none =>
            simp only [hget, bind, Except.bind, Except.ok.injEq] at h
            rw [← h, ← deposit_directory_of_absent hget]
            refine .intro ⟨rfl, hget, d, n, hn, rfl⟩
              (takes_singleton ?_ Entry.directory_kind_ne_link (by simp))
            intro e he
            rw [hget] at he
            cases he

/-- Making a directory with those above it lays down directories only, also when this fails on the
way. -/
theorem gains_of_makeDirectories_any (h : fs.makeDirectories existingOk p = (outcome, fs')) :
    ReflTransGen (Gains fun x => x.2 = .directory ∧ fs.get? x.1 = none ∧ EndsInStep x.1) fs fs' := by
  have hmakes := makes_of_makeDirectories h
  clear h
  induction hmakes with
  | refl => exact .refl
  | tail hmakes hmake ih =>
      obtain ⟨q, hq⟩ := hmake
      refine ih.trans (gains_mono ?_ (.single (gains_of_makeDirectory_any hq)))
      rintro x ⟨hdir, hnone, hstep⟩
      refine ⟨hdir, ?_, hstep⟩
      -- what was there at the beginning would be there still
      cases hget : fs.get? x.1 with
      | none => rfl
      | some e =>
          rw [keeps_of_makes hmakes _ _ hget] at hnone
          cases hnone

/-! ## Entries of a directory -/

/-- Where the path of an entry leads somewhere, a walk of one name leads there from the directory. -/
lemma exists_walk_of_find_child (hfind : fs.find p = .ok (l, .directory))
    (h : fs.find (p.child n) = .ok (l', e)) : ∃ k, fs.walk true k l [n] = .ok (.present l' e) := by
  rw [find_eq_ok_iff, locate_eq_ok_iff] at hfind h
  obtain ⟨-, -, -, hwalk⟩ := hfind
  obtain ⟨-, -, -, hwalk'⟩ := h
  obtain ⟨k, hk⟩ := walk_append (walks_of_walk hwalk)
  exact ⟨k, (hk true [n] (.inr rfl)).symm.trans hwalk'⟩

/-- The path of an entry leads to it, if it leads anywhere and the entry is no link. -/
lemma eq_of_find_child (hfind : fs.find p = .ok (l, .directory)) (hdot : n ≠ ".") (hup : n ≠ "..")
    (hlink : ∀ target, fs.get? (l ++ [n]) ≠ some (.link target))
    (h : fs.find (p.child n) = .ok (l', e)) : l' = l ++ [n] ∧ fs.get? (l ++ [n]) = some e := by
  obtain ⟨k, happend⟩ := exists_walk_of_find_child hfind h
  rw [walk_cons, if_neg hdot, if_neg hup] at happend
  split at happend
  · cases happend
  · cases hget : fs.get? (l ++ [n]) with
    | none => simp [hget] at happend
    | some e' =>
        cases e' with
        | directory =>
            simp only [hget, walk_nil, Except.ok.injEq, Place.present.injEq] at happend
            exact ⟨happend.1.symm, by rw [← happend.2]⟩
        | file content =>
            simp only [hget, if_true, Except.ok.injEq, Place.present.injEq] at happend
            exact ⟨happend.1.symm, by rw [← happend.2]⟩
        | link target => exact absurd hget (hlink target)

end FileSystem

end Scaffold
