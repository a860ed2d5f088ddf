import Mathlib.Data.List.Induction
import Mathlib.Tactic.Lemma
import Scaffold.Proofs.FileSystem.Changing
import Scaffold.Proofs.FileSystem.Resolving

/-!
# What the system refuses

A path that holds the null character cannot be handed to the system at all, and a question may be left
without an answer because a name or a path is too long.

* `isDirectory_eq_error`: that is the only reason for which it is not told whether a path leads to a
  directory.
* `Path.NullFree`, `FileSystem.NullFree`: no null character stands in a path, or in a name or a link.
* `Failure.OfFiles`: a failure that comes from what lies where. `ofFiles_of_makeDirectories` and the like
  say that the operations on files fail in no other way.
* `NullFree.write`, `NullFree.makeDirectories`: a change at such a path brings none in.
-/

namespace Scaffold

/-! ## Null characters -/

/-- The text holds no null character. -/
def NullFree (s : String) : Prop :=
  ∀ c ∈ s.toList, c ≠ '\x00'

instance (s : String) : Decidable (NullFree s) :=
  inferInstanceAs (Decidable (∀ c ∈ s.toList, c ≠ '\x00'))

namespace Path

variable {p q : Path} {n : String} {c : Char}

/-- No name of the path holds a null character. -/
def NullFree (p : Path) : Prop :=
  ∀ n ∈ p.names, Scaffold.NullFree n

instance (p : Path) : Decidable p.NullFree :=
  inferInstanceAs (Decidable (∀ n ∈ p.names, Scaffold.NullFree n))

/-- An entry without a null character in its name adds none to a path. -/
lemma NullFree.child (hp : p.NullFree) (hn : Scaffold.NullFree n) : (p.child n).NullFree := by
  intro m hm
  rcases List.mem_append.mp hm with hm | hm
  · exact hp m hm
  · rw [List.mem_singleton.mp hm]
    exact hn

/-- The parent of a path has no null character that the path does not have. -/
lemma NullFree.parent (hp : p.NullFree) : p.parent.NullFree :=
  fun n hn => hp n (List.dropLast_subset _ hn)

/-- Two paths without null characters make one. -/
lemma NullFree.join (hp : p.NullFree) (hq : q.NullFree) : (p.join q).NullFree := by
  unfold Path.join
  split
  · exact hq
  · intro n hn
    exact (List.mem_append.mp hn).elim (hp n) (hq n)

/-- The text of a path holds no null character if its names hold none. -/
lemma NullFree.notMem_toString (hp : p.NullFree) : '\x00' ∉ p.toString.toList := by
  obtain ⟨anchor, names⟩ := p
  induction names using List.reverseRecOn with
  | nil => cases anchor <;> decide
  | append_singleton names n ih =>
      intro hmem
      rcases mem_toString_child (p := ⟨anchor, names⟩) (by decide) hmem with hmem | hmem
      · exact ih (fun m hm => hp m (List.mem_append_left _ hm)) hmem
      · exact hp n (by simp) _ hmem rfl

/-- No name of a path holds a null character if the text of the path holds none. -/
lemma nullFree_of_notMem_toString (h : '\x00' ∉ p.toString.toList) : p.NullFree :=
  fun _ hn _ hc heq => h (mem_toString_of_mem_names hn (heq ▸ hc))

end Path

/-- The characters of a piece stand in the text. -/
lemma Text.mem_of_mem_splitPieces {separator c : Char} {cs piece : List Char}
    (h : piece ∈ (splitPieces separator cs).1 :: (splitPieces separator cs).2) (hc : c ∈ piece) :
    c ∈ cs := by
  induction cs generalizing piece with
  | nil =>
      obtain rfl : piece = [] := by simpa [splitPieces] using h
      cases hc
  | cons d ds ih =>
      rw [splitPieces] at h
      by_cases hd : d = separator
      · simp only [if_pos hd] at h
        rcases List.mem_cons.mp h with rfl | h
        · cases hc
        · exact List.mem_cons_of_mem d (ih h hc)
      · simp only [if_neg hd] at h
        rcases List.mem_cons.mp h with rfl | h
        · rcases List.mem_cons.mp hc with rfl | hc
          · exact List.mem_cons_self
          · exact List.mem_cons_of_mem d (ih List.mem_cons_self hc)
        · exact List.mem_cons_of_mem d (ih (List.mem_cons_of_mem _ h) hc)

/-- The pieces of a text have only its characters. -/
lemma NullFree.of_mem_splitOn {s piece : String} (hs : NullFree s)
    (h : piece ∈ Text.splitOn '/' s) : NullFree piece := by
  obtain ⟨cs, hcs, rfl⟩ := List.mem_map.mp h
  intro c hc
  rw [String.toList_ofList] at hc
  exact hs c (Text.mem_of_mem_splitPieces hcs hc)

/-- A text without null characters is a path without them. -/
lemma NullFree.ofString {s : String} (hs : NullFree s) : (Path.ofString s).NullFree :=
  fun _ hn => hs.of_mem_splitOn (List.mem_filter.mp hn).1

/-- A failure that comes from what lies where: the system finds a fault with a path, or a path holds the
null character, which is not so if it is `clean`. -/
inductive Failure.OfFiles (clean : Prop) : Failure → Prop
  | system (fault : Fault) (path : Path) : OfFiles clean (.system fault path)
  | nullCharacter : ¬ clean → OfFiles clean .nullCharacter

/-- A failure that may come of the files under a condition may do so under a stronger one. -/
lemma Failure.OfFiles.mono {clean clean' : Prop} {f : Failure} (hf : f.OfFiles clean)
    (h : clean' → clean) : f.OfFiles clean' := by
  cases hf with
  | system fault path => exact .system fault path
  | nullCharacter hnot => exact .nullCharacter (mt h hnot)

namespace FileSystem

open Relation

variable {fs fs' : FileSystem} {followLast existingOk : Bool} {k : Nat} {p q : Path}
  {d l : Location} {n : String} {ns : List String} {e : Entry} {r : Place} {f : Failure}
  {fault : Fault} {content : ByteArray} {outcome : Except Failure Unit}

/-- The names that a link leads through have only the characters of its target. -/
lemma nullFree_of_mem_linkNames {target : String} (ht : NullFree target)
    (hn : n ∈ linkNames target) : NullFree n := by
  have hpieces : ∀ m ∈ (Text.splitOn '/' target).filter (· ≠ ""), NullFree m :=
    fun m hm => ht.of_mem_splitOn (List.mem_filter.mp hm).1
  unfold linkNames at hn
  split at hn
  · rcases List.mem_append.mp hn with hn | hn
    · exact hpieces n hn
    · rw [List.mem_singleton.mp hn]
      simp [Scaffold.NullFree]
  · exact hpieces n hn

/-! ## Questions without an answer -/

/-- The reasons for which a walk is stopped. -/
def walkFaults : List Fault :=
  [.noEntry, .notDirectory, .linkLoop, .nameTooLong]

/-- The reasons for which a walk is stopped, given those of a walk that goes on along a link. -/
lemma fault_of_walk_of_walkAlong
    (along : ∀ d target ns fault, fs.walkAlong followLast k d target ns = .error fault →
      fault ∈ walkFaults)
    (h : fs.walk followLast k d ns = .error fault) : fault ∈ walkFaults := by
  induction ns generalizing d with
  | nil =>
      rw [walk_nil] at h
      cases h
  | cons n ns ih =>
      rw [walk_cons] at h
      split at h
      · exact ih h
      split at h
      · exact ih h
      split at h
      · obtain rfl := Except.error.inj h
        decide
      cases hget : fs.get? (d ++ [n]) with
      | none =>
          simp only [hget] at h
          split at h
          · cases h
          · obtain rfl := Except.error.inj h
            decide
      | some e =>
          simp only [hget] at h
          cases e with
          | directory => exact ih h
          | file content =>
              dsimp only at h
              split at h
              · cases h
              · obtain rfl := Except.error.inj h
                decide
          | link target =>
              dsimp only at h
              split at h
              · cases h
              · exact along _ _ _ _ h

/-- A walk fails in one of a few ways. -/
lemma fault_of_walk (h : fs.walk followLast k d ns = .error fault) : fault ∈ walkFaults := by
  induction k generalizing d ns fault with
  | zero =>
      refine fault_of_walk_of_walkAlong (fun d target ns fault halong => ?_) h
      obtain rfl := Except.error.inj halong
      decide
  | succ k ih =>
      refine fault_of_walk_of_walkAlong (fun d target ns fault halong => ?_) h
      rw [walkAlong] at halong
      exact ih halong

/-- A path cannot be handed to the system, or one of four faults is found with it. -/
lemma failure_of_locate (h : fs.locate followLast p = .error f) :
    f = .nullCharacter ∧ '\x00' ∈ p.toString.toList ∨
      ∃ fault ∈ walkFaults, f = .system fault p := by
  unfold locate at h
  split at h
  · rename_i hnull
    exact .inl ⟨(Except.error.inj h).symm, by simpa using hnull⟩
  split at h
  · exact .inr ⟨.nameTooLong, by decide, (Except.error.inj h).symm⟩
  split at h
  · exact .inr ⟨.noEntry, by decide, (Except.error.inj h).symm⟩
  cases hwalk : fs.walk followLast linkLimit (startOf fs.workingDirectory p) p.names with
  | ok r =>
      rw [hwalk] at h
      cases h
  | error fault =>
      rw [hwalk] at h
      exact .inr ⟨fault, fault_of_walk hwalk, (Except.error.inj h).symm⟩

/-- Looking a path up fails at a null character, or as a walk does. -/
lemma failure_of_find (h : fs.find p = .error f) :
    f = .nullCharacter ∧ '\x00' ∈ p.toString.toList ∨
      ∃ fault ∈ walkFaults, f = .system fault p := by
  unfold find at h
  cases hlocate : fs.locate true p with
  | error f' =>
      simp only [hlocate, bind, Except.bind, Except.error.injEq] at h
      rw [← h]
      exact failure_of_locate hlocate
  | ok r =>
      cases r with
      | present l e => simp [hlocate, bind, Except.bind] at h
      | absent d n =>
          simp only [hlocate, bind, Except.bind, Except.error.injEq] at h
          exact .inr ⟨.noEntry, by decide, h.symm⟩

/-- The only reason for which a question about what a path leads to has no answer is that a name or the
path is too long. -/
lemma ask_eq_error {question : Entry → Bool} (h : fs.ask question p = .error f) :
    f = .system .nameTooLong p := by
  unfold ask at h
  cases hfind : fs.find p with
  | ok x => simp [hfind] at h
  | error f' =>
      rw [hfind] at h
      rcases failure_of_find hfind with ⟨rfl, -⟩ | ⟨fault, hfault, rfl⟩
      · simp [meansAbsent] at h
      · simp only [walkFaults, List.mem_cons, List.not_mem_nil, or_false] at hfault
        rcases hfault with rfl | rfl | rfl | rfl
        · simp [meansAbsent] at h
        · simp [meansAbsent] at h
        · simp [meansAbsent] at h
        · simpa [meansAbsent, eq_comm] using h

/-- The only reason for which it is not told whether a path leads to a directory is that a name or the
path is too long. -/
theorem isDirectory_eq_error (h : fs.isDirectory p = .error f) : f = .system .nameTooLong p :=
  ask_eq_error h

/-! ## Failures that come from the files -/

/-- Finding the place of a path fails for a reason of the files. -/
lemma ofFiles_of_locate (h : fs.locate followLast p = .error f) : f.OfFiles p.NullFree := by
  rcases failure_of_locate h with ⟨rfl, hnull⟩ | ⟨fault, -, rfl⟩
  · exact .nullCharacter fun hp => hp.notMem_toString hnull
  · exact .system fault p

/-- Looking a path up fails for a reason of the files. -/
lemma ofFiles_of_find (h : fs.find p = .error f) : f.OfFiles p.NullFree := by
  rcases failure_of_find h with ⟨rfl, hnull⟩ | ⟨fault, -, rfl⟩
  · exact .nullCharacter fun hp => hp.notMem_toString hnull
  · exact .system fault p

/-- Asking for a directory fails for a reason of the files. -/
lemma ofFiles_of_isDirectory (h : fs.isDirectory p = .error f) : f.OfFiles p.NullFree := by
  rw [isDirectory_eq_error h]
  exact .system .nameTooLong p

/-- Listing a directory fails for a reason of the files. -/
lemma ofFiles_of_list (h : fs.list p = .error f) : f.OfFiles p.NullFree := by
  unfold list at h
  cases hfind : fs.find p with
  | error f' =>
      simp only [hfind, bind, Except.bind, Except.error.injEq] at h
      exact ofFiles_of_find (h ▸ hfind)
  | ok x =>
      obtain ⟨l, e⟩ := x
      cases e with
      | directory => simp [hfind, bind, Except.bind] at h
      | file content =>
          simp only [hfind, bind, Except.bind, Except.error.injEq] at h
          exact h ▸ .system .notDirectory p
      | link target =>
          simp only [hfind, bind, Except.bind, Except.error.injEq] at h
          exact h ▸ .system .notDirectory p

/-- Reading a file fails for a reason of the files. -/
lemma ofFiles_of_read (h : fs.read p = .error f) : f.OfFiles p.NullFree := by
  unfold read at h
  cases hfind : fs.find p with
  | error f' =>
      simp only [hfind, bind, Except.bind, Except.error.injEq] at h
      exact ofFiles_of_find (h ▸ hfind)
  | ok x =>
      obtain ⟨l, e⟩ := x
      cases e with
      | file content => simp [hfind, bind, Except.bind] at h
      | directory =>
          simp only [hfind, bind, Except.bind, Except.error.injEq] at h
          exact h ▸ .system .isDirectory p
      | link target =>
          simp only [hfind, bind, Except.bind, Except.error.injEq] at h
          exact h ▸ .system .isDirectory p

/-- Comparing two paths fails for a reason of the files. -/
lemma ofFiles_of_sameEntry (h : fs.sameEntry p q = .error f) :
    f.OfFiles (p.NullFree ∧ q.NullFree) := by
  unfold sameEntry at h
  split at h
  · rename_i hfind
    obtain rfl := Except.error.inj h
    exact (ofFiles_of_find hfind).mono And.left
  · rename_i hfind _
    obtain rfl := Except.error.inj h
    exact (ofFiles_of_find hfind).mono And.right
  · cases h
  · cases h

/-- Writing a file fails for a reason of the files. -/
lemma ofFiles_of_write (h : fs.write p content = .error f) : f.OfFiles p.NullFree := by
  unfold write at h
  cases hlocate : fs.locate true p with
  | error f' =>
      simp only [hlocate, bind, Except.bind, Except.error.injEq] at h
      exact ofFiles_of_locate (h ▸ hlocate)
  | ok r =>
      cases r with
      | absent d n => simp [hlocate, bind, Except.bind] at h
      | present l e =>
          cases e with
          | directory =>
              simp only [hlocate, bind, Except.bind, Except.error.injEq] at h
              exact h ▸ .system .isDirectory p
          | file content => simp [hlocate, bind, Except.bind] at h
          | link target => simp [hlocate, bind, Except.bind] at h

/-- Making one directory fails for a reason of the files. -/
lemma ofFiles_of_makeDirectory (h : fs.makeDirectory p = .error f) : f.OfFiles p.NullFree := by
  unfold makeDirectory make at h
  cases hlocate : fs.locate false p with
  | error f' =>
      simp only [hlocate, bind, Except.bind, Except.error.injEq] at h
      exact ofFiles_of_locate (h ▸ hlocate)
  | ok r =>
      cases r with
      | absent d n => simp [hlocate, bind, Except.bind] at h
      | present l e =>
          simp only [hlocate, bind, Except.bind, Except.error.injEq] at h
          exact h ▸ .system .exists p

/-- What is not excused stays a reason of the files. -/
lemma ofFiles_of_excuse {f' : Failure} (hf : f.OfFiles p.NullFree)
    (h : (fs.excuse existingOk p f).1 = .error f') : f'.OfFiles p.NullFree := by
  cases hf with
  | nullCharacter hnull =>
      obtain rfl := Except.error.inj h
      exact .nullCharacter hnull
  | system fault q =>
      unfold excuse at h
      dsimp only at h
      split at h
      · split at h
        · cases h
        · obtain rfl := Except.error.inj h
          exact .system fault q
        · rename_i hdir
          obtain rfl := Except.error.inj h
          exact ofFiles_of_isDirectory hdir
      · obtain rfl := Except.error.inj h
        exact .system fault q

/-- Making the last directory of a path fails for a reason of the files. -/
lemma ofFiles_of_makeLast (h : (fs.makeLast existingOk p).1 = .error f) :
    f.OfFiles p.NullFree := by
  unfold makeLast at h
  split at h
  · cases h
  · obtain rfl := Except.error.inj h
    exact .system .noEntry _
  · rename_i hmake
    exact ofFiles_of_excuse (ofFiles_of_makeDirectory hmake) h

/-- So does making it with all directories above it. -/
lemma ofFiles_of_makeWithParents (h : (makeWithParents k fs existingOk p).1 = .error f) :
    f.OfFiles p.NullFree := by
  induction k generalizing existingOk p with
  | zero => exact ofFiles_of_makeLast h
  | succ k ih =>
      unfold makeWithParents at h
      split at h
      · cases h
      · split at h
        · obtain rfl := Except.error.inj h
          exact .system .noEntry _
        · split at h
          · exact ofFiles_of_makeLast h
          · rename_i hparents
            have hfirst : (makeWithParents k fs true p.parent).1 = .error f := by
              rw [hparents]
              exact h
            exact (ih hfirst).mono Path.NullFree.parent
      · rename_i hmake
        exact ofFiles_of_excuse (ofFiles_of_makeDirectory hmake) h

/-- Making directories fails for a reason that comes from the files. -/
lemma ofFiles_of_makeDirectories (h : (fs.makeDirectories existingOk p).1 = .error f) :
    f.OfFiles p.NullFree :=
  ofFiles_of_makeWithParents h

/-- A path that leads to a directory holds no null character. -/
lemma nullFree_of_isDirectory (h : fs.isDirectory p = .ok true) : p.NullFree := by
  obtain ⟨l, hfind⟩ := find_of_isDirectory h
  obtain ⟨hnull, -⟩ := locate_eq_ok_iff.mp (find_eq_ok_iff.mp hfind)
  exact Path.nullFree_of_notMem_toString hnull

/-! ## File systems without null characters -/

/-- No name of an entry or of the working directory, and no target of a link, holds a null
character. -/
structure NullFree (fs : FileSystem) : Prop where
  workingDirectory : ∀ n ∈ fs.workingDirectory, Scaffold.NullFree n
  names : ∀ l e, fs.get? l = some e → ∀ n ∈ l, Scaffold.NullFree n
  targets : ∀ l target, fs.get? l = some (.link target) → Scaffold.NullFree target

/-- The names in a directory hold no null character. -/
lemma NullFree.of_list (hfs : fs.NullFree) (h : fs.list p = .ok ns) (hn : n ∈ ns) :
    Scaffold.NullFree n := by
  unfold list at h
  cases hfind : fs.find p with
  | error f => simp [hfind, bind, Except.bind] at h
  | ok x =>
      obtain ⟨l, e⟩ := x
      cases e with
      | file content => simp [hfind, bind, Except.bind] at h
      | link target => simp [hfind, bind, Except.bind] at h
      | directory =>
          simp only [hfind, bind, Except.bind, Except.ok.injEq] at h
          rw [← h, mem_listing] at hn
          obtain ⟨e, hget⟩ := Option.isSome_iff_exists.mp hn
          exact hfs.names _ e hget n (by simp)

/-- A path starts at a location without null characters if the working directory has none. -/
lemma nullFree_startOf (hd : ∀ n ∈ d, Scaffold.NullFree n) (p : Path) :
    ∀ n ∈ startOf d p, Scaffold.NullFree n := by
  unfold startOf
  split
  · simp
  · exact hd

/-- Where a walk ends, no name holds a null character, if none does where it starts, and none of those
along which it goes. -/
lemma nullFree_of_walks
    (htargets : ∀ l target, fs.get? l = some (.link target) → Scaffold.NullFree target)
    (h : Walks fs followLast k d ns r) (hd : ∀ n ∈ d, Scaffold.NullFree n)
    (hns : ∀ n ∈ ns, Scaffold.NullFree n) : ∀ n ∈ r.location, Scaffold.NullFree n := by
  have hstep : ∀ {d : Location} {n : String} {ns : List String}, (∀ n ∈ d, Scaffold.NullFree n) →
      (∀ m ∈ n :: ns, Scaffold.NullFree m) → ∀ m ∈ d ++ [n], Scaffold.NullFree m := by
    intro d n ns hd hns m hm
    rcases List.mem_append.mp hm with hm | hm
    · exact hd m hm
    · rw [List.mem_singleton.mp hm]
      exact hns n List.mem_cons_self
  induction h with
  | here k d => exact hd
  | dot _ ih => exact ih hd fun n hn => hns n (List.mem_cons_of_mem _ hn)
  | up _ ih =>
      exact ih (fun n hn => hd n (List.dropLast_subset _ hn))
        fun n hn => hns n (List.mem_cons_of_mem _ hn)
  | down _ _ _ ih => exact ih (hstep hd hns) fun n hn => hns n (List.mem_cons_of_mem _ hn)
  | absent => exact hstep hd hns
  | file => exact hstep hd hns
  | link => exact hstep hd hns
  | follow _ hget _ _ ih =>
      refine ih (nullFree_startOf hd _) fun n hn => ?_
      rcases List.mem_append.mp hn with hn | hn
      · exact nullFree_of_mem_linkNames (htargets _ _ hget) hn
      · exact hns n (List.mem_cons_of_mem _ hn)

/-- A path leads to a location without null characters if neither it nor the links have any. -/
lemma nullFree_of_locate (hhere : ∀ n ∈ fs.workingDirectory, Scaffold.NullFree n)
    (htargets : ∀ l target, fs.get? l = some (.link target) → Scaffold.NullFree target)
    (hp : p.NullFree) (h : fs.locate followLast p = .ok r) :
    ∀ n ∈ r.location, Scaffold.NullFree n := by
  obtain ⟨-, -, -, hwalk⟩ := locate_eq_ok_iff.mp h
  exact nullFree_of_walks htargets (walks_of_walk hwalk) (nullFree_startOf hhere p) hp

/-- A file written at a path without null characters brings none in. -/
lemma NullFree.write (hfs : fs.NullFree) (hp : p.NullFree) (h : fs.write p content = .ok fs') :
    fs'.NullFree := by
  obtain ⟨d, n, -, hlocate, -, rfl, -⟩ := write_eq_ok h
  have hnames := nullFree_of_locate hfs.workingDirectory hfs.targets hp hlocate
  rw [location_placeIn] at hnames
  refine ⟨fun m hm => ?_, fun l e hget => ?_, fun l target hget => ?_⟩
  · rw [workingDirectory_deposit] at hm
    exact hfs.workingDirectory m hm
  · by_cases hl : l = d ++ [n]
    · rw [hl]
      exact hnames
    · rw [get?_deposit_of_ne hl] at hget
      exact hfs.names l e hget
  · by_cases hl : l = d ++ [n]
    · rw [hl, get?_deposit_self (by simp)] at hget
      cases hget
    · rw [get?_deposit_of_ne hl] at hget
      exact hfs.targets l target hget

/-- Directories made for a path without null characters bring none in. -/
lemma NullFree.makeDirectories (hfs : fs.NullFree) (hp : p.NullFree)
    (h : fs.makeDirectories existingOk p = (outcome, fs')) : fs'.NullFree := by
  obtain ⟨made, hprepares⟩ := makeDirectories_prepares h
  have hhere : ∀ n ∈ fs'.workingDirectory, Scaffold.NullFree n := by
    rw [hprepares.grows.workingDirectory]
    exact hfs.workingDirectory
  have htargets : ∀ l target, fs'.get? l = some (.link target) → Scaffold.NullFree target := by
    intro l target hget
    by_cases hl : l ∈ made
    · rw [hprepares.get?_of_mem hl] at hget
      cases hget
    · rw [hprepares.get?_of_notMem hl] at hget
      exact hfs.targets l target hget
  refine ⟨hhere, fun l e hget => ?_, htargets⟩
  by_cases hl : l ∈ made
  · -- a new directory lies where a part of the path leads
    obtain ⟨q, hpasses, hfind⟩ := hprepares.passed l hl
    have hq : q.NullFree := fun n hn => hp n (hpasses.2.subset hn)
    exact nullFree_of_locate hhere htargets hq (find_eq_ok_iff.mp hfind)
  · rw [hprepares.get?_of_notMem hl] at hget
    exact hfs.names l e hget

end FileSystem

end Scaffold
