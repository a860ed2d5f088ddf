import Mathlib.Tactic.Lemma
import Scaffold.Proofs.FileSystem.Counting
import Scaffold.Proofs.FileSystem.Needing
import Scaffold.Proofs.FileSystem.Providing
import Scaffold.Proofs.Tree.Preparing
import Scaffold.Proofs.Tree.Working

/-!
# What preparing the directory of a project comes to

The path of a project is given as it stands, and may pass entries that are taken away, even by way of two
dots or a link. The directory that it denoted is emptied then all the same, but the path leads there no
more.

* `Emptied`: a directory has been emptied but for the history of the project, and whether the path leads
  there still.
* `Founded`: a directory has been made where there was nothing.
* `prepareTarget_outcomes`: what comes of it for each target, and when it is done for sure.
* `target_lost_of_winding_path`: a path that led to a directory need not lead to one afterwards.
-/

namespace Scaffold.Tree

open FileSystem

variable {fs fs' : FileSystem} {w w' : Workspace} {p q : Path} {d l out : Location} {n : String}
  {ns : List String} {e : Entry} {target : String}

/-! ## A directory that is there -/

/-- The directory at `d`, to which the path `p` has led, is there with nothing in it but what was kept under
the name `.git`. Nothing else has changed, links that were taken away have not been followed, and the path
leads there still if and only if it needs nothing that has been taken away. -/
structure Emptied (fs : FileSystem) (p : Path) (d : Location) (fs' : FileSystem) : Prop where
  directory : fs'.get? d = some .directory
  inside : ∀ n rest,
    fs'.get? (d ++ n :: rest) = if n = ".git" then fs.get? (d ++ n :: rest) else none
  outside : ∀ l, (∀ n rest, l ≠ d ++ n :: rest) → fs'.get? l = fs.get? l
  find_iff : fs'.find p = .ok (d, .directory) ↔ ∀ n rest, fs.Needs p (d ++ n :: rest) → n = ".git"

/-- One name is kept. -/
lemma mem_keptNames : n ∈ keptNames ↔ n = ".git" := by
  simp [keptNames]

/-- Clearing a directory of what is not kept empties it. -/
lemma Emptied.of_clear (hrooted : fs.Rooted) (hfind : fs.find p = .ok (d, .directory)) :
    Emptied fs p d (fs.clear d keptNames) where
  directory := by
    rw [get?_clear_outside (by simp), hrooted.get?_of_find hfind]
  inside n rest := by
    simp only [get?_clear_below, mem_keptNames]
  outside l hl := get?_clear_outside hl
  find_iff := by
    simp only [find_clear_iff hfind, mem_keptNames]

/-- What comes of preparing a directory that is there. -/
lemma prepareTarget_empties (hrooted : w.files.Rooted)
    (hfind : w.files.find p = .ok (d, .directory))
    (hrun : (Work.prepareTarget p).run w = .ok () w') : Emptied w.files p d w'.files := by
  have hprepared := (ends_prepareTarget hrooted p).of_run_ok hrun
  generalize hfs' : w'.files = fs' at hprepared
  cases hprepared with
  | @emptied d' hfind' =>
      rw [eq_of_find hfind' hfind]
      exact .of_clear hrooted hfind
  | made hnot => exact absurd hfind (find_ne_ok_of_exists? hnot _)

/-- A directory is emptied for sure if the path needs nothing that is taken away and the system can say of
each entry what it leads to. -/
lemma prepareTarget_of_needs (hrooted : w.files.Rooted) (hkeyed : w.files.Keyed)
    (hnamed : w.files.PlainNamed) (hfind : w.files.find p = .ok (d, .directory))
    (hneeds : ∀ n rest, w.files.Needs p (d ++ n :: rest) → n = ".git")
    (hanswers : ∀ n ∈ w.files.listing d, n ≠ ".git" →
      ∃ isDir, w.files.isDirectory (p.child n) = .ok isDir) :
    ∃ w', (Work.prepareTarget p).run w = .ok () w' := by
  have hclear : w.files.clearDirectory keptNames p = (.ok (), w.files.clear d keptNames) := by
    refine clearDirectory_of_needs hrooted hfind
      (fun n rest h => mem_keptNames.mpr (hneeds n rest h)) (hkeyed.nodup_listing d) ?_
    exact fun n hn hnot =>
      ⟨hnamed d n (mem_listing.mp hn), hanswers n hn (mt mem_keptNames.mpr hnot)⟩
  have hexists : w.files.exists? p = .ok true := by
    simp [exists?, ask, hfind]
  have hyields : (Work.prepareTarget p).Yields w.files () (w.files.clear d keptNames) := by
    refine (Work.yields_ask hexists).bind ?_
    rw [if_pos rfl]
    exact Work.yields_attempt hclear
  obtain ⟨events, hrun⟩ := hyields w.events
  exact ⟨_, hrun⟩

/-! ## A directory that is missing -/

/-- The directory at `out` is new and empty, the path `p` leads there, and nothing else has changed, but for
new directories on the way of the path. -/
structure Founded (fs : FileSystem) (p : Path) (out : Location) (fs' : FileSystem) : Prop where
  found : fs'.find p = .ok (out, .directory)
  new : fs.get? out = none
  empty : ∀ rest, rest ≠ [] → fs'.get? (out ++ rest) = none
  outside : ∀ l, (∀ n rest, l ≠ out ++ n :: rest) →
    fs'.get? l = fs.get? l ∨
      fs.get? l = none ∧ fs'.get? l = some .directory ∧
        ∃ q, Passes p q ∧ fs'.find q = .ok (l, .directory)

/-- What comes of preparing a directory that is missing. -/
lemma prepareTarget_founds (hrooted : w.files.Rooted) (hmissing : w.files.exists? p = .ok false)
    (hrun : (Work.prepareTarget p).run w = .ok () w') : ∃ out, Founded w.files p out w'.files := by
  have hprepared := (ends_prepareTarget hrooted p).of_run_ok hrun
  generalize hfs' : w'.files = fs' at hprepared
  have hcopy := hprepared
  cases hprepared with
  | emptied hfind => exact absurd hfind (find_ne_ok_of_exists? hmissing _)
  | made _ hmake =>
      obtain ⟨out, hfound, hnew, hempty⟩ := hrooted.get?_append_of_makeDirectories hmake
      exact ⟨out, hfound, hnew, hempty, fun l hl => hcopy.get?_outside hfound hl⟩

/-- A missing directory is made for sure if the path goes on from a directory through names of entries,
within the limits of the system, and the first of them is missing there. -/
lemma prepareTarget_of_missing (hrooted : w.files.Rooted) (h : w.files.Missing q l n ns)
    (hmissing : w.files.exists? (q.below (n :: ns)) = .ok false) :
    ∃ w', (Work.prepareTarget (q.below (n :: ns))).run w = .ok () w' := by
  obtain ⟨fs', hmake, -, -⟩ := makeDirectories_of_missing false hrooted h
  have hyields : (Work.prepareTarget (q.below (n :: ns))).Yields w.files () fs' := by
    refine (Work.yields_ask hmissing).bind ?_
    rw [if_neg (by decide)]
    exact Work.yields_attempt hmake
  obtain ⟨events, hrun⟩ := hyields w.events
  exact ⟨_, hrun⟩

/-! ## Something in the way -/

/-- Nothing is done where there is something other than a directory. -/
lemma prepareTarget_of_file (hfind : w.files.find p = .ok (l, e)) (he : e ≠ .directory) :
    (Work.prepareTarget p).run w =
      .error (.failed .prepareDirectory p (.system .notDirectory p)) w := by
  have hexists : w.files.exists? p = .ok true := by
    simp [exists?, ask, hfind]
  have hclear : w.files.clearDirectory keptNames p = (.error (.system .notDirectory p), w.files) := by
    have hlist : w.files.list p = .error (.system .notDirectory p) := by
      unfold list
      rw [hfind]
      cases e with
      | directory => exact absurd rfl he
      | file content => rfl
      | link target => rfl
    rw [clearDirectory, hlist]
  rw [Work.prepareTarget, Work.run_bind_of_ok (Work.run_ask_of_ok hexists), if_pos rfl]
  exact Work.run_attempt_of_error (f := .system .notDirectory p) hclear

/-- Nothing is done where there is a link that leads nowhere. -/
lemma prepareTarget_of_dangling (hlink : w.files.locate false p = .ok (.present l (.link target)))
    (hnowhere : ∀ x, w.files.find p ≠ .ok x) :
    ∃ fault, (Work.prepareTarget p).run w =
      .error (.failed .prepareDirectory p (.system fault p)) w := by
  have hmake : w.files.makeDirectories false p = (.error (.system .exists p), w.files) := by
    have hlast : w.files.makeDirectory p = .error (.system .exists p) := by
      simp only [makeDirectory, make, hlink, bind, Except.bind]
    unfold makeDirectories
    cases p.names.length with
    | zero => simp [makeWithParents, makeLast, hlast, excuse]
    | succ k => simp [makeWithParents, hlast, excuse]
  cases hexists : w.files.exists? p with
  | ok isThere =>
      cases isThere with
      | true =>
          obtain ⟨x, hfind⟩ := exists_find_of_exists? hexists
          exact absurd hfind (hnowhere x)
      | false =>
          rw [Work.prepareTarget, Work.run_bind_of_ok (Work.run_ask_of_ok hexists), if_neg (by decide)]
          exact ⟨.exists, Work.run_attempt_of_error (f := .system .exists p) hmake⟩
  | error f =>
      obtain rfl := ask_eq_error hexists
      refine ⟨.nameTooLong, Work.run_bind_of_error ?_⟩
      exact Work.run_ask_of_error (f := .system .nameTooLong p) hexists

/-! ## All targets -/

/-- **What preparing the directory of a project comes to.** Where the path leads to a directory, that one is
emptied but for the history of the project, and whether the path leads there still depends on the path; it
is emptied for sure if nothing is taken away that the path needs and the system can say of each entry what
it leads to. Where the path leads to nothing, an empty directory is made with those above it, and for sure
where only names of entries are missing. A file in the way, or a link that leads nowhere, is a problem, and
nothing changes then. -/
theorem prepareTarget_outcomes (hrooted : w.files.Rooted) (hkeyed : w.files.Keyed)
    (hnamed : w.files.PlainNamed) (p : Path) :
    (∀ d, w.files.find p = .ok (d, .directory) →
      (∀ w', (Work.prepareTarget p).run w = .ok () w' → Emptied w.files p d w'.files) ∧
      ((∀ n rest, w.files.Needs p (d ++ n :: rest) → n = ".git") →
        (∀ n ∈ w.files.listing d, n ≠ ".git" →
          ∃ isDir, w.files.isDirectory (p.child n) = .ok isDir) →
        ∃ w', (Work.prepareTarget p).run w = .ok () w')) ∧
    (w.files.exists? p = .ok false →
      (∀ w', (Work.prepareTarget p).run w = .ok () w' → ∃ out, Founded w.files p out w'.files) ∧
      (∀ q l n ns, w.files.Missing q l n ns → p = q.below (n :: ns) →
        ∃ w', (Work.prepareTarget p).run w = .ok () w')) ∧
    (∀ l e, w.files.find p = .ok (l, e) → e ≠ .directory →
      (Work.prepareTarget p).run w =
        .error (.failed .prepareDirectory p (.system .notDirectory p)) w) ∧
    (∀ l target, w.files.locate false p = .ok (.present l (.link target)) →
      (∀ x, w.files.find p ≠ .ok x) →
      ∃ fault, (Work.prepareTarget p).run w =
        .error (.failed .prepareDirectory p (.system fault p)) w) := by
  refine ⟨fun d hfind => ?_, fun hmissing => ?_, ?_, ?_⟩
  · exact ⟨fun w' => prepareTarget_empties hrooted hfind, prepareTarget_of_needs hrooted hkeyed hnamed hfind⟩
  · refine ⟨fun w' => prepareTarget_founds hrooted hmissing, ?_⟩
    rintro q l n ns h rfl
    exact prepareTarget_of_missing hrooted h hmissing
  · exact fun l e => prepareTarget_of_file
  · exact fun l target => prepareTarget_of_dangling

/-- A project with its history, and with files, directories and links that are listed in no order. One of the
links leads out of the project, one to a directory of it, and one nowhere. -/
def linkedFiles : FileSystem where
  entries := [(["old"], .directory), (["old", "a"], .file "1".toByteArray), (["work"], .directory),
    (["work", "sub"], .directory), (["work", "sub", "deep"], .directory),
    (["work", "sub", "deep", "out"], .link "/old"), (["work", "sub", "b"], .file "2".toByteArray),
    (["work", ".git"], .directory), (["work", ".git", "HEAD"], .link "main"),
    (["work", "away"], .link "nowhere"), (["work", "again"], .link "sub"),
    (["work", "Makefile"], .file "3".toByteArray)]

/-- All of the project goes but its history, the directory with what lies deep in it as well, and what a link
led to stays. -/
theorem prepareTarget_outcomes_linked :
    ∃ w', (Work.prepareTarget ⟨.root, ["work"]⟩).run ⟨linkedFiles, []⟩ = .ok () w' ∧
      w'.files.find ⟨.root, ["work"]⟩ = .ok (["work"], .directory) ∧
      w'.files.get? ["work", ".git", "HEAD"] = some (.link "main") ∧
      w'.files.get? ["work", "sub", "deep", "out"] = none ∧
      w'.files.get? ["work", "again"] = none ∧ w'.files.get? ["work", "away"] = none ∧
      w'.files.get? ["work", "Makefile"] = none ∧
      w'.files.get? ["old", "a"] = some (.file "1".toByteArray) := by
  have hoff : ∀ n rest, ¬ linkedFiles.Needs ⟨.root, ["work"]⟩ ("work" :: n :: rest) := by
    rintro n rest (⟨habs, -⟩ | hasks)
    · cases habs
    · rcases asks_cons hasks with
        ⟨hdot, -⟩ | ⟨hup, -⟩ | ⟨-, hl | ⟨-, hrest⟩ | ⟨_, _, -, hlink, -⟩⟩
      · exact absurd hdot (by decide)
      · exact absurd hup (by decide)
      · cases hl
      · cases hrest
      · cases hlink
  have hanswers : ∀ n ∈ linkedFiles.listing ["work"], n ≠ ".git" →
      ∃ isDir, linkedFiles.isDirectory ⟨.root, ["work", n]⟩ = .ok isDir := by
    have hnames : linkedFiles.listing ["work"] = ["sub", ".git", "away", "again", "Makefile"] := by
      decide
    rw [hnames]
    intro n hn hnot
    simp only [List.mem_cons, List.not_mem_nil, or_false] at hn
    rcases hn with rfl | rfl | rfl | rfl | rfl
    · exact ⟨true, rfl⟩
    · exact absurd rfl hnot
    · exact ⟨false, rfl⟩
    · exact ⟨true, rfl⟩
    · exact ⟨false, rfl⟩
  have houtcomes := prepareTarget_outcomes (w := ⟨linkedFiles, []⟩) (rooted_of_entries (by decide))
    (by decide) (plainNamed_of_entries (by decide)) ⟨.root, ["work"]⟩
  obtain ⟨hempties, hsure⟩ := houtcomes.1 ["work"] rfl
  obtain ⟨w', hrun⟩ := hsure (fun n rest h => absurd h (hoff n rest)) hanswers
  have hemptied := hempties w' hrun
  refine ⟨w', hrun, hemptied.find_iff.mpr fun n rest h => absurd h (hoff n rest), ?_, ?_, ?_, ?_, ?_,
    ?_⟩
  · exact hemptied.inside ".git" ["HEAD"]
  · exact hemptied.inside "sub" ["deep", "out"]
  · exact hemptied.inside "again" []
  · exact hemptied.inside "away" []
  · exact hemptied.inside "Makefile" []
  · exact hemptied.outside ["old", "a"] (by simp)

/-- A project with a file in it and a directory. -/
def nestedFiles : FileSystem where
  entries := [(["work"], .directory), (["work", "a"], .file "1".toByteArray), (["work", "sub"], .directory)]

/-- A path that leads to the directory of a project by way of an entry of it leads nowhere once that entry
has gone. -/
theorem target_lost_of_winding_path :
    ¬ ∀ (w w' : Workspace) (p : Path) (d : Location), w.files.Rooted →
      w.files.find p = .ok (d, .directory) → (Work.prepareTarget p).run w = .ok () w' →
      ∃ d', w'.files.find p = .ok (d', .directory) := by
  intro hleads
  have hclear : nestedFiles.clearDirectory keptNames ⟨.root, ["work", "sub", ".."]⟩ =
      (.ok (), nestedFiles.clear ["work"] keptNames) := by
    decide
  have hyields : (Work.prepareTarget ⟨.root, ["work", "sub", ".."]⟩).Yields nestedFiles ()
      (nestedFiles.clear ["work"] keptNames) := by
    refine (Work.yields_ask (a := true) rfl).bind ?_
    rw [if_pos rfl]
    exact Work.yields_attempt hclear
  obtain ⟨events, hrun⟩ := hyields []
  obtain ⟨d', hfind⟩ := hleads _ _ _ ["work"] (rooted_of_entries (by decide)) rfl hrun
  cases hfind

end Scaffold.Tree
