import Mathlib.Tactic.Lemma
import Scaffold.FileSystem.Access

/-!
# Walks that arrive

A walk that arrives somewhere is a chain of steps, one for every name and every link on its way.

* `Walks`: the steps, said apart from the function that takes them. `walks_iff` says that these are
  the walks on which no fault is found.
* `walk_append`: a walk that has come to a directory goes on as if it had started there;
  `walk_append_cases` says that no other walk goes on.
* `Grows`: directories and links stay where they are. `walks_of_grows` says that walks to
  directories are then the same.
* `Keeps`: files stay as they are as well.
* `walks_put_absent`: something put where a walk found nothing is found by that walk.
-/

namespace Scaffold.FileSystem

/-! ## Steps -/

/-- A name that leads from a directory to an entry in it. -/
def IsStep (n : String) : Prop :=
  n ≠ "." ∧ n ≠ ".." ∧ n.utf8ByteSize ≤ nameLimit

/-- A walk that goes on at the target of a link, if a link may still be followed. -/
def walkAlong (fs : FileSystem) (followLast : Bool) :
    Nat → Location → String → List String → Except Fault Place
  | 0, _, _, _ => .error .linkLoop
  | k + 1, d, target, ns =>
    fs.walk followLast k (startOf d (.ofString target)) (linkNames target ++ ns)

variable {fs fs' : FileSystem} {followLast : Bool} {k : Nat} {d l : Location} {n : String}
  {ns more : List String} {e : Entry} {r : Place}

@[simp] lemma walk_nil : fs.walk followLast k d [] = .ok (.present d .directory) := by
  cases k with
  | zero => rfl
  | succ k => rfl

/-- A walk takes its first name first. -/
lemma walk_cons :
    fs.walk followLast k d (n :: ns) =
      if n = "." then fs.walk followLast k d ns
      else if n = ".." then fs.walk followLast k d.dropLast ns
      else if nameLimit < n.utf8ByteSize then .error .nameTooLong
      else
        match fs.get? (d ++ [n]) with
        | none => if ns = [] then .ok (.absent d n) else .error .noEntry
        | some .directory => fs.walk followLast k (d ++ [n]) ns
        | some (.file content) =>
          if ns = [] then .ok (.present (d ++ [n]) (.file content)) else .error .notDirectory
        | some (.link target) =>
          if ns = [] ∧ followLast = false then .ok (.present (d ++ [n]) (.link target))
          else fs.walkAlong followLast k d target ns := by
  cases k with
  | zero => rfl
  | succ k => rfl

/-- The step from a directory to an entry in it. -/
lemma walk_cons_of_isStep (h : IsStep n) :
    fs.walk followLast k d (n :: ns) =
      match fs.get? (d ++ [n]) with
      | none => if ns = [] then .ok (.absent d n) else .error .noEntry
      | some .directory => fs.walk followLast k (d ++ [n]) ns
      | some (.file content) =>
        if ns = [] then .ok (.present (d ++ [n]) (.file content)) else .error .notDirectory
      | some (.link target) =>
        if ns = [] ∧ followLast = false then .ok (.present (d ++ [n]) (.link target))
        else fs.walkAlong followLast k d target ns := by
  obtain ⟨hdot, hup, hsize⟩ := h
  rw [walk_cons, if_neg hdot, if_neg hup, if_neg (by omega)]

/-! ## Chains of steps -/

/-- `Walks fs followLast k d names r`: a walk along some names arrives at `r` and follows at most
`k` links on its way. -/
inductive Walks (fs : FileSystem) (followLast : Bool) :
    Nat → Location → List String → Place → Prop
  | here (k : Nat) (d : Location) : Walks fs followLast k d [] (.present d .directory)
  | dot {k : Nat} {d : Location} {ns : List String} {r : Place} :
    Walks fs followLast k d ns r → Walks fs followLast k d ("." :: ns) r
  | up {k : Nat} {d : Location} {ns : List String} {r : Place} :
    Walks fs followLast k d.dropLast ns r → Walks fs followLast k d (".." :: ns) r
  | down {k : Nat} {d : Location} {n : String} {ns : List String} {r : Place} :
    IsStep n → fs.get? (d ++ [n]) = some .directory → Walks fs followLast k (d ++ [n]) ns r →
      Walks fs followLast k d (n :: ns) r
  | absent {d : Location} {n : String} (k : Nat) :
    IsStep n → fs.get? (d ++ [n]) = none → Walks fs followLast k d [n] (.absent d n)
  | file {d : Location} {n : String} {content : ByteArray} (k : Nat) :
    IsStep n → fs.get? (d ++ [n]) = some (.file content) →
      Walks fs followLast k d [n] (.present (d ++ [n]) (.file content))
  | link {d : Location} {n target : String} (k : Nat) :
    IsStep n → fs.get? (d ++ [n]) = some (.link target) → followLast = false →
      Walks fs followLast k d [n] (.present (d ++ [n]) (.link target))
  | follow {k : Nat} {d : Location} {n target : String} {ns : List String} {r : Place} :
    IsStep n → fs.get? (d ++ [n]) = some (.link target) → ¬(ns = [] ∧ followLast = false) →
      Walks fs followLast k (startOf d (.ofString target)) (linkNames target ++ ns) r →
      Walks fs followLast (k + 1) d (n :: ns) r

/-- A walk by the rules is the walk that is computed. -/
lemma walk_of_walks (h : Walks fs followLast k d ns r) : fs.walk followLast k d ns = .ok r := by
  induction h with
  | here => exact walk_nil
  | dot _ ih => rw [walk_cons, if_pos rfl, ih]
  | up _ ih => rw [walk_cons, if_neg (by decide), if_pos rfl, ih]
  | down hn hget _ ih => simp only [walk_cons_of_isStep hn, hget, ih]
  | absent k hn hget => simp only [walk_cons_of_isStep hn, hget, if_true]
  | file k hn hget => simp only [walk_cons_of_isStep hn, hget, if_true]
  | link k hn hget hlast =>
      simp only [walk_cons_of_isStep hn, hget, hlast, and_self, if_true]
  | follow hn hget hgoes _ ih =>
      simp only [walk_cons_of_isStep hn, hget, if_neg hgoes, walkAlong, ih]

/-- The steps of a walk, given those of the walk that goes on along a link. -/
lemma walks_of_walk_of_walkAlong
    (along : ∀ d n target ns r, IsStep n → fs.get? (d ++ [n]) = some (.link target) →
      ¬(ns = [] ∧ followLast = false) → fs.walkAlong followLast k d target ns = .ok r →
      Walks fs followLast k d (n :: ns) r)
    (h : fs.walk followLast k d ns = .ok r) : Walks fs followLast k d ns r := by
  induction ns generalizing d with
  | nil =>
      rw [walk_nil] at h
      obtain rfl := Except.ok.inj h
      exact .here k d
  | cons n ns ih =>
      rw [walk_cons] at h
      by_cases hdot : n = "."
      · rw [if_pos hdot] at h
        subst hdot
        exact .dot (ih h)
      by_cases hup : n = ".."
      · rw [if_neg hdot, if_pos hup] at h
        subst hup
        exact .up (ih h)
      by_cases hsize : nameLimit < n.utf8ByteSize
      · rw [if_neg hdot, if_neg hup, if_pos hsize] at h
        cases h
      rw [if_neg hdot, if_neg hup, if_neg hsize] at h
      have hn : IsStep n := ⟨hdot, hup, by omega⟩
      cases hget : fs.get? (d ++ [n]) with
      | none =>
          rw [hget] at h
          by_cases hns : ns = []
          · subst hns
            obtain rfl := Except.ok.inj h
            exact .absent k hn hget
          · simp [hns] at h
      | some e =>
          rw [hget] at h
          cases e with
          | directory => exact .down hn hget (ih h)
          | file content =>
              by_cases hns : ns = []
              · subst hns
                obtain rfl := Except.ok.inj h
                exact .file k hn hget
              · simp [hns] at h
          | link target =>
              by_cases hends : ns = [] ∧ followLast = false
              · obtain ⟨rfl, hlast⟩ := hends
                simp only [hlast, and_self, if_true] at h
                obtain rfl := Except.ok.inj h
                exact .link k hn hget hlast
              · simp only [if_neg hends] at h
                exact along d n target ns r hn hget hends h

/-- The walk that is computed goes by the rules. -/
lemma walks_of_walk (h : fs.walk followLast k d ns = .ok r) : Walks fs followLast k d ns r := by
  -- the names are no measure, because a link may lead along more of them
  induction k generalizing d ns r with
  | zero =>
      refine walks_of_walk_of_walkAlong ?_ h
      intro d n target ns r _ _ _ halong
      cases halong
  | succ k ih =>
      refine walks_of_walk_of_walkAlong ?_ h
      intro d n target ns r hn hget hgoes halong
      exact .follow hn hget hgoes (ih halong)

/-- A walk on which no fault is found is a chain of steps, and every chain of steps is one. -/
theorem walks_iff : fs.walk followLast k d ns = .ok r ↔ Walks fs followLast k d ns r :=
  ⟨walks_of_walk, walk_of_walks⟩

/-! ## Going on -/

/-- A walk that has come to a directory goes on as if it had started there, with the links that it
may still follow. -/
lemma walk_append (h : Walks fs true k d ns (.present l .directory)) :
    ∃ k', ∀ followLast more, more ≠ [] ∨ followLast = true →
      fs.walk followLast k d (ns ++ more) = fs.walk followLast k' l more := by
  generalize hr : Place.present l .directory = r at h
  induction h with
  | here k d =>
      obtain ⟨rfl, -⟩ := Place.present.inj hr
      exact ⟨k, fun _ _ _ => rfl⟩
  | dot _ ih =>
      obtain ⟨k', hk'⟩ := ih hr
      refine ⟨k', fun followLast more hmore => ?_⟩
      rw [List.cons_append, walk_cons, if_pos rfl, hk' followLast more hmore]
  | up _ ih =>
      obtain ⟨k', hk'⟩ := ih hr
      refine ⟨k', fun followLast more hmore => ?_⟩
      rw [List.cons_append, walk_cons, if_neg (by decide), if_pos rfl, hk' followLast more hmore]
  | down hn hget _ ih =>
      obtain ⟨k', hk'⟩ := ih hr
      refine ⟨k', fun followLast more hmore => ?_⟩
      simp only [List.cons_append, walk_cons_of_isStep hn, hget, hk' followLast more hmore]
  | absent => cases hr
  | file => cases hr
  | link => cases hr
  | @follow k d n target ns r hn hget _ _ ih =>
      obtain ⟨k', hk'⟩ := ih hr
      refine ⟨k', fun followLast more hmore => ?_⟩
      have hgoes : ¬(ns ++ more = [] ∧ followLast = false) := by
        rintro ⟨hnil, hlast⟩
        rcases hmore with hmore | hmore
        · exact hmore (List.append_eq_nil_iff.mp hnil).2
        · rw [hlast] at hmore
          cases hmore
      rw [List.cons_append, walk_cons_of_isStep hn, hget]
      simp only [if_neg hgoes, walkAlong, ← List.append_assoc]
      exact hk' followLast more hmore

/-- A walk that is to go on has come to a directory or is stopped, given that this is so of the walk that
goes on along a link. -/
lemma walk_append_cases_of_walkAlong (hmore : more ≠ [])
    (along : ∀ d target ns, (∃ l, fs.walkAlong true k d target ns = .ok (.present l .directory)) ∨
      ∃ fault, fs.walkAlong true k d target (ns ++ more) = .error fault ∧
        (fault = .nameTooLong → fs.walkAlong true k d target ns = .error .nameTooLong)) :
    (∃ l, fs.walk true k d ns = .ok (.present l .directory)) ∨
      ∃ fault, fs.walk true k d (ns ++ more) = .error fault ∧
        (fault = .nameTooLong → fs.walk true k d ns = .error .nameTooLong) := by
  have hends : ∀ ns, ns ++ more ≠ [] := fun ns => by simp [hmore]
  induction ns generalizing d with
  | nil => exact .inl ⟨d, walk_nil⟩
  | cons n ns ih =>
      rw [List.cons_append, walk_cons, walk_cons]
      by_cases hdot : n = "."
      · simp only [if_pos hdot]
        exact ih
      by_cases hup : n = ".."
      · simp only [if_neg hdot, if_pos hup]
        exact ih
      by_cases hsize : nameLimit < n.utf8ByteSize
      · simp only [if_neg hdot, if_neg hup, if_pos hsize]
        exact .inr ⟨.nameTooLong, rfl, fun _ => trivial⟩
      simp only [if_neg hdot, if_neg hup, if_neg hsize, if_neg (hends ns)]
      cases hget : fs.get? (d ++ [n]) with
      | none => exact .inr ⟨.noEntry, rfl, nofun⟩
      | some e =>
          cases e with
          | directory => exact ih
          | file content => exact .inr ⟨.notDirectory, rfl, nofun⟩
          | link target =>
              simp only [Bool.true_eq_false, and_false, if_false]
              exact along d target ns

/-- A walk that is to go on has come to a directory or is stopped. If a name that is too long stops it,
then also the walk that does not go on. -/
lemma walk_append_cases (hmore : more ≠ []) :
    (∃ l, fs.walk true k d ns = .ok (.present l .directory)) ∨
      ∃ fault, fs.walk true k d (ns ++ more) = .error fault ∧
        (fault = .nameTooLong → fs.walk true k d ns = .error .nameTooLong) := by
  induction k generalizing d ns with
  | zero =>
      exact walk_append_cases_of_walkAlong hmore fun d target ns =>
        .inr ⟨.linkLoop, rfl, nofun⟩
  | succ k ih =>
      refine walk_append_cases_of_walkAlong hmore fun d target ns => ?_
      simp only [walkAlong, ← List.append_assoc]
      exact ih

/-! ## Growing file systems -/

/-- Directories and links stay where they are, and so does the working directory. -/
structure Grows (fs fs' : FileSystem) : Prop where
  workingDirectory : fs'.workingDirectory = fs.workingDirectory
  directory : ∀ l, fs.get? l = some .directory → fs'.get? l = some .directory
  link : ∀ l target, fs.get? l = some (.link target) → fs'.get? l = some (.link target)

/-- Files grow from themselves. -/
lemma Grows.refl (fs : FileSystem) : Grows fs fs :=
  ⟨rfl, fun _ h => h, fun _ _ h => h⟩

/-- Files that grow twice have grown. -/
lemma Grows.trans {fs'' : FileSystem} (first : Grows fs fs') (second : Grows fs' fs'') :
    Grows fs fs'' where
  workingDirectory := second.workingDirectory.trans first.workingDirectory
  directory l h := second.directory l (first.directory l h)
  link l target h := second.link l target (first.link l target h)

/-- Whatever lies somewhere lies there still. -/
def Keeps (fs fs' : FileSystem) : Prop :=
  ∀ l e, fs.get? l = some e → fs'.get? l = some e

/-- Files keep what they have. -/
lemma Keeps.refl (fs : FileSystem) : Keeps fs fs :=
  fun _ _ h => h

/-- What is kept twice is kept. -/
lemma Keeps.trans {fs'' : FileSystem} (first : Keeps fs fs') (second : Keeps fs' fs'') :
    Keeps fs fs'' :=
  fun l e h => second l e (first l e h)

/-- Files that keep everything grow if the working directory is the same. -/
lemma Keeps.grows (h : Keeps fs fs') (hhere : fs'.workingDirectory = fs.workingDirectory) :
    Grows fs fs' :=
  ⟨hhere, fun l hl => h l _ hl, fun l _ hl => h l _ hl⟩

/-- Where something is put that is not there yet, nothing that a walk passes is lost. -/
lemma Grows.put (hl : fs.get? l = none) (e : Entry) : Grows fs (fs.put l e) := by
  have hother : ∀ l' e', fs.get? l' = some e' → (fs.put l e).get? l' = some e' := by
    intro l' e' h
    rw [get?_put_of_ne fs e, h]
    rintro rfl
    rw [hl] at h
    cases h
  exact ⟨rfl, fun l' h => hother l' .directory h, fun l' target h => hother l' (.link target) h⟩

/-- A walk to a directory arrives there also after the file system has grown. -/
lemma walks_of_grows (hgrows : Grows fs fs')
    (h : Walks fs followLast k d ns (.present l .directory)) :
    Walks fs' followLast k d ns (.present l .directory) := by
  generalize hr : Place.present l .directory = r at h ⊢
  induction h with
  | here k d => exact .here k d
  | dot _ ih => exact .dot (ih hr)
  | up _ ih => exact .up (ih hr)
  | down hn hget _ ih => exact .down hn (hgrows.directory _ hget) (ih hr)
  | absent => cases hr
  | file => cases hr
  | link => cases hr
  | follow hn hget hgoes _ ih => exact .follow hn (hgrows.link _ _ hget) hgoes (ih hr)

/-- A walk that ends where nothing is leaves nothing out. -/
lemma get?_of_walks_absent (h : Walks fs followLast k d ns (.absent l n)) :
    fs.get? (l ++ [n]) = none := by
  generalize hr : Place.absent l n = r at h
  induction h with
  | here => cases hr
  | dot _ ih => exact ih hr
  | up _ ih => exact ih hr
  | down _ _ _ ih => exact ih hr
  | absent k _ hget =>
      obtain ⟨rfl, rfl⟩ := Place.absent.inj hr
      exact hget
  | file => cases hr
  | link => cases hr
  | follow _ _ _ _ ih => exact ih hr

/-- A directory put where a walk found nothing is found by that walk, which may then also follow a
link at its end, because there is none. -/
lemma walks_put_absent (h : Walks fs followLast k d ns (.absent l n)) :
    Walks (fs.put (l ++ [n]) .directory) true k d ns (.present (l ++ [n]) .directory) := by
  have hgrows : Grows fs (fs.put (l ++ [n]) .directory) := .put (get?_of_walks_absent h) .directory
  generalize hr : Place.absent l n = r at h
  induction h with
  | here => cases hr
  | dot _ ih => exact .dot (ih hr)
  | up _ ih => exact .up (ih hr)
  | down hn hget _ ih => exact .down hn (hgrows.directory _ hget) (ih hr)
  | absent k hn hget =>
      obtain ⟨rfl, rfl⟩ := Place.absent.inj hr
      exact .down hn (get?_put_self fs .directory (by simp)) (.here k _)
  | file => cases hr
  | link => cases hr
  | follow hn hget _ _ ih => exact .follow hn (hgrows.link _ _ hget) (by simp) (ih hr)

end Scaffold.FileSystem
