import Mathlib.Tactic.Lemma
import Scaffold.Proofs.FileSystem.Clearing
import Scaffold.Proofs.FileSystem.Refusing

/-!
# What a path needs

A path leads to its directory by way of other entries. It passes each directory and each link on its way,
those included that two dots take back again, and a path that is not absolute starts from the working
directory. Where one of these is gone, the path leads nowhere.

* `Asks`: the locations that a walk asks for.
* `Needs`: those that a path needs. `find_iff_of_keeps` says that when entries are taken away, a path to a
  directory leads there still if and only if everything is there that it needs.
* `isDirectory_of_keeps`: where entries are taken away, a question whether a path leads to a directory
  does not lose its answer.
* `find_clear_iff`: when a path leads to its directory still that has been emptied through it.
* `removeEntry_of_find`, `clearDirectory_of_needs`: an entry is taken away, and a directory emptied, through
  a path that leads there all the while.
-/

namespace Scaffold.FileSystem

variable {fs fs' : FileSystem} {k : Nat} {p : Path} {d l : Location} {n : String} {ns : List String}
  {r : Place} {isDir : Bool} {kept : List String}

/-- `fs.Asks l k d names`: a walk along some names, on which at most `k` links are followed, asks for what
lies at `l`. -/
inductive Asks (fs : FileSystem) (l : Location) : Nat → Location → List String → Prop
  | dot {k : Nat} {d : Location} {ns : List String} : Asks fs l k d ns → Asks fs l k d ("." :: ns)
  | up {k : Nat} {d : Location} {ns : List String} :
    Asks fs l k d.dropLast ns → Asks fs l k d (".." :: ns)
  | entry {k : Nat} {d : Location} {n : String} {ns : List String} :
    IsStep n → l = d ++ [n] → Asks fs l k d (n :: ns)
  | down {k : Nat} {d : Location} {n : String} {ns : List String} :
    IsStep n → fs.get? (d ++ [n]) = some .directory → Asks fs l k (d ++ [n]) ns →
      Asks fs l k d (n :: ns)
  | follow {k : Nat} {d : Location} {n target : String} {ns : List String} :
    IsStep n → fs.get? (d ++ [n]) = some (.link target) →
      Asks fs l k (startOf d (.ofString target)) (linkNames target ++ ns) →
      Asks fs l (k + 1) d (n :: ns)

/-- A walk asks for the entry of its first name, if that is one of an entry, or for something on its way from
there. -/
lemma asks_cons (h : fs.Asks l k d (n :: ns)) :
    n = "." ∧ fs.Asks l k d ns ∨ n = ".." ∧ fs.Asks l k d.dropLast ns ∨
      IsStep n ∧ (l = d ++ [n] ∨ fs.get? (d ++ [n]) = some .directory ∧ fs.Asks l k (d ++ [n]) ns ∨
        ∃ k' target, k = k' + 1 ∧ fs.get? (d ++ [n]) = some (.link target) ∧
          fs.Asks l k' (startOf d (.ofString target)) (linkNames target ++ ns)) := by
  cases h with
  | dot h => exact .inl ⟨rfl, h⟩
  | up h => exact .inr (.inl ⟨rfl, h⟩)
  | entry hn hl => exact .inr (.inr ⟨hn, .inl hl⟩)
  | down hn hget h => exact .inr (.inr ⟨hn, .inr (.inl ⟨hget, h⟩)⟩)
  | follow hn hget h => exact .inr (.inr ⟨hn, .inr (.inr ⟨_, _, rfl, hget, h⟩)⟩)

/-- A location that a path needs: the working directory if the path starts there, or what it asks for on
its way. -/
def Needs (fs : FileSystem) (p : Path) (l : Location) : Prop :=
  p.isAbsolute = false ∧ l = fs.workingDirectory ∨
    fs.Asks l linkLimit (startOf fs.workingDirectory p) p.names

/-! ## Walks where entries are gone -/

/-- A walk goes the same way where everything is the same that it asks for. -/
lemma walks_of_asks (h : Walks fs true k d ns r)
    (hsame : ∀ l, fs.Asks l k d ns → fs'.get? l = fs.get? l) : Walks fs' true k d ns r := by
  induction h with
  | here k d => exact .here k d
  | dot _ ih => exact .dot (ih fun l hl => hsame l (.dot hl))
  | up _ ih => exact .up (ih fun l hl => hsame l (.up hl))
  | down hn hget _ ih =>
      exact .down hn ((hsame _ (.entry hn rfl)).trans hget) (ih fun l hl => hsame l (.down hn hget hl))
  | absent k hn hget => exact .absent k hn ((hsame _ (.entry hn rfl)).trans hget)
  | file k hn hget => exact .file k hn ((hsame _ (.entry hn rfl)).trans hget)
  | link k hn hget hlast => exact .link k hn ((hsame _ (.entry hn rfl)).trans hget) hlast
  | follow hn hget hgoes _ ih =>
      exact .follow hn ((hsame _ (.entry hn rfl)).trans hget) hgoes
        (ih fun l hl => hsame l (.follow hn hget hl))

/-- Where a walk arrives at a directory after entries have been taken away, everything is there that it
has asked for before. -/
lemma isSome_of_asks (hkeeps : Keeps fs' fs) (h : Walks fs' true k d ns (.present l .directory))
    {m : Location} (hasks : fs.Asks m k d ns) : (fs'.get? m).isSome := by
  generalize hr : Place.present l .directory = r at h
  induction h with
  | here => cases hasks
  | dot _ ih =>
      rcases asks_cons hasks with ⟨-, hasks⟩ | ⟨hup, -⟩ | ⟨hn, -⟩
      · exact ih hasks hr
      · exact absurd hup (by decide)
      · exact absurd rfl hn.1
  | up _ ih =>
      rcases asks_cons hasks with ⟨hdot, -⟩ | ⟨-, hasks⟩ | ⟨hn, -⟩
      · exact absurd hdot (by decide)
      · exact ih hasks hr
      · exact absurd rfl hn.2.1
  | down hn hget _ ih =>
      rcases asks_cons hasks with
        ⟨hdot, -⟩ | ⟨hup, -⟩ | ⟨-, rfl | ⟨-, hasks⟩ | ⟨_, _, -, hlink, -⟩⟩
      · exact absurd hdot hn.1
      · exact absurd hup hn.2.1
      · rw [hget]
        rfl
      · exact ih hasks hr
      · cases (hkeeps _ _ hget).symm.trans hlink
  | absent => cases hr
  | file => cases hr
  | link => cases hr
  | follow hn hget _ _ ih =>
      rcases asks_cons hasks with
        ⟨hdot, -⟩ | ⟨hup, -⟩ | ⟨-, rfl | ⟨hdir, -⟩ | ⟨_, _, hk, hlink, hasks⟩⟩
      · exact absurd hdot hn.1
      · exact absurd hup hn.2.1
      · rw [hget]
        rfl
      · cases (hkeeps _ _ hget).symm.trans hdir
      · obtain rfl := Nat.succ.inj hk
        obtain rfl := Entry.link.inj (Option.some.inj ((hkeeps _ _ hget).symm.trans hlink))
        exact ih hasks hr

/-- **When a path leads to its directory still.** Let entries be taken away. A path to a directory leads
there afterwards if and only if everything is there that it needs. -/
theorem find_iff_of_keeps (hkeeps : Keeps fs' fs)
    (hhere : fs'.workingDirectory = fs.workingDirectory) (hfind : fs.find p = .ok (d, .directory)) :
    fs'.find p = .ok (d, .directory) ↔ ∀ l, fs.Needs p l → (fs'.get? l).isSome := by
  rw [find_eq_ok_iff, locate_eq_ok_iff] at hfind ⊢
  obtain ⟨hnull, hshort, hstart, hwalk⟩ := hfind
  rw [hhere]
  constructor
  · rintro ⟨-, -, hstart', hwalk'⟩ l (⟨habs, rfl⟩ | hasks)
    · rw [hstart' habs]
      rfl
    · exact isSome_of_asks hkeeps (walks_of_walk hwalk') hasks
  · intro hneeds
    have hsame : ∀ l, fs.Needs p l → fs'.get? l = fs.get? l := by
      intro l hl
      obtain ⟨e, hget⟩ := Option.isSome_iff_exists.mp (hneeds l hl)
      rw [hget, hkeeps l e hget]
    refine ⟨hnull, hshort, fun habs => ?_, ?_⟩
    · rw [hsame _ (.inl ⟨habs, rfl⟩), hstart habs]
    · exact walk_of_walks (walks_of_asks (walks_of_walk hwalk) fun l hl => hsame l (.inr hl))

/-- Everything that a path to a directory needs is there. -/
lemma isSome_of_needs (hfind : fs.find p = .ok (d, .directory)) (hneeds : fs.Needs p l) :
    (fs.get? l).isSome :=
  (find_iff_of_keeps (.refl fs) rfl hfind).mp hfind l hneeds

/-! ## Questions where entries are gone -/

/-- A walk is stopped by a name that is too long also before entries are taken away, given that this is so
of the walk that goes on along a link. -/
lemma walk_tooLong_of_walkAlong (hkeeps : Keeps fs' fs)
    (along : ∀ d target ns, fs'.walkAlong true k d target ns = .error .nameTooLong →
      fs.walkAlong true k d target ns = .error .nameTooLong)
    (h : fs'.walk true k d ns = .error .nameTooLong) : fs.walk true k d ns = .error .nameTooLong := by
  induction ns generalizing d with
  | nil =>
      rw [walk_nil] at h
      cases h
  | cons n ns ih =>
      rw [walk_cons] at h ⊢
      by_cases hdot : n = "."
      · rw [if_pos hdot] at h ⊢
        exact ih h
      by_cases hup : n = ".."
      · rw [if_neg hdot, if_pos hup] at h ⊢
        exact ih h
      by_cases hsize : nameLimit < n.utf8ByteSize
      · rw [if_neg hdot, if_neg hup, if_pos hsize]
      rw [if_neg hdot, if_neg hup, if_neg hsize] at h ⊢
      cases hget : fs'.get? (d ++ [n]) with
      | none =>
          simp only [hget] at h
          split at h <;> cases h
      | some e =>
          rw [hkeeps _ _ hget]
          simp only [hget] at h
          cases e with
          | directory => exact ih h
          | file content =>
              dsimp only at h
              split at h <;> cases h
          | link target =>
              simp only [Bool.true_eq_false, and_false, if_false] at h ⊢
              exact along d target ns h

/-- A name that is too long on the way was so before. -/
lemma walk_tooLong_of_keeps (hkeeps : Keeps fs' fs)
    (h : fs'.walk true k d ns = .error .nameTooLong) : fs.walk true k d ns = .error .nameTooLong := by
  induction k generalizing d ns with
  | zero =>
      refine walk_tooLong_of_walkAlong hkeeps (fun d target ns halong => ?_) h
      cases halong
  | succ k ih => exact walk_tooLong_of_walkAlong hkeeps (fun d target ns halong => ih halong) h

/-- A path is too long, or has a name that is too long on its way, also before entries are taken away. -/
lemma locate_tooLong_of_keeps (hkeeps : Keeps fs' fs)
    (hhere : fs'.workingDirectory = fs.workingDirectory)
    (h : fs'.locate true p = .error (.system .nameTooLong p)) :
    fs.locate true p = .error (.system .nameTooLong p) := by
  rw [locate_tooLong_iff, hhere] at h
  rw [locate_tooLong_iff]
  refine ⟨h.1, h.2.imp_right fun ⟨hstart, hwalk⟩ => ⟨fun habs => ?_, ?_⟩⟩
  · exact hkeeps _ _ (hstart habs)
  · exact walk_tooLong_of_keeps hkeeps hwalk

/-- It is not told whether a path leads to a directory where the path or a name on its way is too long. -/
lemma isDirectory_eq_error_iff :
    (∃ f, fs.isDirectory p = .error f) ↔ fs.locate true p = .error (.system .nameTooLong p) := by
  constructor
  · rintro ⟨f, h⟩
    obtain rfl := isDirectory_eq_error h
    unfold isDirectory ask at h
    cases hfind : fs.find p with
    | ok x => simp [hfind] at h
    | error f =>
        cases hf : meansAbsent f with
        | true => simp [hfind, hf] at h
        | false =>
            simp only [hfind, hf, Bool.false_eq_true, if_false, Except.error.injEq] at h
            subst h
            unfold find at hfind
            cases hlocate : fs.locate true p with
            | error f' => simpa [hlocate, bind, Except.bind] using hfind
            | ok r => cases r <;> simp [hlocate, bind, Except.bind] at hfind
  · intro h
    exact ⟨_, by simp [isDirectory, ask, find, h, bind, Except.bind, meansAbsent]; rfl⟩

/-- A question whether a path leads to a directory that has an answer has one also after entries have been
taken away. -/
lemma isDirectory_of_keeps (hkeeps : Keeps fs' fs)
    (hhere : fs'.workingDirectory = fs.workingDirectory) (h : fs.isDirectory p = .ok isDir) :
    ∃ isDir', fs'.isDirectory p = .ok isDir' := by
  cases hafter : fs'.isDirectory p with
  | ok isDir' => exact ⟨isDir', rfl⟩
  | error f =>
      obtain ⟨f', hbefore⟩ := isDirectory_eq_error_iff.mpr
        (locate_tooLong_of_keeps hkeeps hhere (isDirectory_eq_error_iff.mp ⟨f, hafter⟩))
      rw [hbefore] at h
      cases h

/-! ## Emptied directories -/

/-- A path leads to its directory still after that has been emptied if and only if it needs nothing of what
has been taken away. -/
lemma find_clear_iff (hfind : fs.find p = .ok (d, .directory)) :
    (fs.clear d kept).find p = .ok (d, .directory) ↔
      ∀ n rest, fs.Needs p (d ++ n :: rest) → n ∈ kept := by
  rw [find_iff_of_keeps (keeps_of_clear fs d kept) rfl hfind]
  constructor
  · intro hsome n rest hneeds
    have hget := hsome _ hneeds
    rw [get?_clear_below] at hget
    by_contra hn
    rw [if_neg hn] at hget
    cases hget
  · intro hkept l hneeds
    by_cases hl : ∃ n rest, l = d ++ n :: rest
    · obtain ⟨n, rest, rfl⟩ := hl
      rw [get?_clear_below, if_pos (hkept n rest hneeds)]
      exact isSome_of_needs hfind hneeds
    · rw [get?_clear_outside fun n rest heq => hl ⟨n, rest, heq⟩]
      exact isSome_of_needs hfind hneeds

/-- An entry is taken away through a path that leads to its directory, and does so still when the entry has
been emptied, given that the system can say whether the entry leads to a directory. -/
lemma removeEntry_of_find (hrooted : fs.Rooted) (hfind : fs.find p = .ok (d, .directory))
    (hafter : (fs.clear (d ++ [n]) []).find p = .ok (d, .directory)) (hname : IsPlainName n)
    (hsome : (fs.get? (d ++ [n])).isSome) (hanswer : fs.isDirectory (p.child n) = .ok isDir) :
    fs.removeEntry p n = (.ok (), fs.thin d fun m => decide (m ≠ n)) := by
  obtain ⟨e, hget⟩ := Option.isSome_iff_exists.mp hsome
  have hentry := entryIn_of_find hfind hget
  have herase : e ≠ .directory → fs.erase (d ++ [n]) = fs.thin d fun m => decide (m ≠ n) :=
    fun he => hrooted.erase_of_ne (by rwa [hget, ne_eq, Option.some.injEq])
  cases e with
  | link target =>
      -- whatever the link leads to
      simp [removeEntry, hanswer, isLinkIn, hentry, unlink, herase]
  | file content =>
      obtain ⟨-, rfl⟩ :=
        find_child_of_isDirectory hfind hname hget (Entry.file_kind_ne_link content) hanswer
      simp [removeEntry, hanswer, unlink, hentry, herase]
  | directory =>
      obtain ⟨-, rfl⟩ :=
        find_child_of_isDirectory hfind hname hget Entry.directory_kind_ne_link hanswer
      have hget' : (fs.clear (d ++ [n]) []).get? (d ++ [n]) = some .directory := by
        rw [get?_clear_outside (by simp), hget]
      have hlisting : (fs.clear (d ++ [n]) []).listing (d ++ [n]) = [] := by
        refine List.eq_nil_iff_forall_not_mem.mpr fun m hm => ?_
        rw [mem_listing, get?_clear_below] at hm
        simp at hm
      have hentry' := entryIn_of_find hafter hget'
      simp [removeEntry, hanswer, isLinkIn, hentry, removeTree, hrooted.removeBelow_height,
        removeDirectory, hentry', hlisting, erase_clear]

/-- Entries of a directory are taken away through a path that leads there still when the directory has
been emptied, given that the system can say of each entry whether it leads to a directory. -/
lemma clearEntries_of_find {names : List String} (hrooted : fs.Rooted) (hnodup : names.Nodup)
    (hafter : (fs.clear d kept).find p = .ok (d, .directory))
    (hnames : ∀ n ∈ names, n ∉ kept → IsPlainName n ∧ (fs.get? (d ++ [n])).isSome ∧
      ∃ isDir, fs.isDirectory (p.child n) = .ok isDir) :
    clearEntries kept p fs names = (.ok (), fs.thin d fun m => decide (m ∈ names → m ∈ kept)) := by
  induction names generalizing fs with
  | nil =>
      rw [clearEntries, thin_of_keep]
      simp
  | cons n ns ih =>
      obtain ⟨hfresh, hnodup⟩ := List.nodup_cons.mp hnodup
      obtain ⟨hfirst, hothers⟩ := List.forall_mem_cons.mp hnames
      by_cases hn : n ∈ kept
      · rw [clearEntries, if_pos hn, ih hrooted hnodup hafter hothers]
        congr 2
        funext m
        by_cases hm : m = n
        · simp [hm, hn]
        · simp [hm]
      obtain ⟨hname, hsome, isDir, hanswer⟩ := hfirst hn
      have hfind := find_of_grows ((keeps_of_clear fs d kept).grows rfl) hafter
      have hemptied : (fs.clear (d ++ [n]) []).find p = .ok (d, .directory) := by
        have hclear : (fs.clear (d ++ [n]) []).clear d kept = fs.clear d kept :=
          thin_clear (decide_eq_false hn)
        rw [← hclear] at hafter
        exact find_of_grows ((keeps_of_clear _ d kept).grows rfl) hafter
      have hafter' : ((fs.thin d fun m => decide (m ≠ n)).clear d kept).find p =
          .ok (d, .directory) := by
        have hclear : (fs.thin d fun m => decide (m ≠ n)).clear d kept = fs.clear d kept := by
          rw [clear, thin_thin, clear]
          congr 1
          funext m
          by_cases hm : m = n
          · simp [hm, hn]
          · simp [hm]
        rw [hclear, hafter]
      rw [clearEntries, if_neg hn,
        removeEntry_of_find hrooted hfind hemptied hname hsome hanswer]
      dsimp only
      rw [ih (hrooted.thin d _) hnodup hafter' fun m hm hnot => ?_, thin_thin]
      · congr 2
        funext m
        by_cases hm : m = n
        · simp [hm, hn]
        · simp [hm]
      · obtain ⟨hname', hsome', isDir', hanswer'⟩ := hothers m hm hnot
        refine ⟨hname', ?_, isDirectory_of_keeps (keeps_of_thin fs d _) rfl hanswer'⟩
        rw [get?_thin_below, if_pos, hsome']
        rw [decide_eq_true_eq]
        rintro rfl
        exact hfresh hm

/-- A directory can be emptied through a path that needs nothing of what is taken away, given that the
system can say of each entry whether it leads to a directory. -/
lemma clearDirectory_of_needs (hrooted : fs.Rooted) (hfind : fs.find p = .ok (d, .directory))
    (hneeds : ∀ n rest, fs.Needs p (d ++ n :: rest) → n ∈ kept) (hnodup : (fs.listing d).Nodup)
    (hanswers : ∀ n ∈ fs.listing d, n ∉ kept →
      IsPlainName n ∧ ∃ isDir, fs.isDirectory (p.child n) = .ok isDir) :
    fs.clearDirectory kept p = (.ok (), fs.clear d kept) := by
  have hafter := (find_clear_iff hfind).mpr hneeds
  have hnames : ∀ n ∈ fs.listing d, n ∉ kept → IsPlainName n ∧ (fs.get? (d ++ [n])).isSome ∧
      ∃ isDir, fs.isDirectory (p.child n) = .ok isDir :=
    fun n hn hnot => ⟨(hanswers n hn hnot).1, mem_listing.mp hn, (hanswers n hn hnot).2⟩
  rw [clearDirectory, list_of_find hfind]
  dsimp only
  rw [clearEntries_of_find hrooted hnodup hafter hnames, clear]
  congr 1
  refine hrooted.thin_congr fun n hn => ?_
  simp [hn]

end Scaffold.FileSystem
