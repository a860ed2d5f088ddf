import Mathlib.Tactic.Lemma
import Scaffold.Host

/-!
# Operations on a host

* `Host.isDirectory_ample`, `Host.list_ample`, `Host.read_ample` and so on: on the ample host, operations
  come to what the files say.
* `Host.refusing`, `Host.unsearchable`: hosts that refuse some calls.
* `Host.isDirectory_eq_ok`, `Host.list_eq_ok`, `Host.read_eq_ok`: a host that answers a question gives the
  answer of the files.
* `Host.write_cases`: what a write comes to. It is not begun, or it is done, or the file is left with the
  first part of its content.
-/

namespace Scaffold

namespace FileSystem

/-- Where an entry is placed twice, the second one stays. -/
lemma put_put (fs : FileSystem) (l : Location) (e e' : Entry) :
    (fs.put l e).put l e' = fs.put l e' := by
  simp [put, List.filter_filter]

variable {fs : FileSystem} {p : Path} {content : ByteArray}

/-- To write a file is to place it where it lies. -/
lemma write_eq_map (fs : FileSystem) (p : Path) (content : ByteArray) :
    fs.write p content = (fs.fileTarget p).map fun l => fs.put l (.file content) := by
  unfold write fileTarget
  cases fs.locate true p with
  | error f => rfl
  | ok r =>
      cases r with
      | absent d n => rfl
      | present l e => cases e <;> rfl

end FileSystem

namespace Host

variable {fs fs' : FileSystem} {p q : Path} {content : ByteArray} {text : String} {isDir : Bool}
  {names : List String} {f : Failure} {outcome : Except Failure Unit}

/-! ## The ample host -/

@[simp] lemma isDirectory_ample (fs : FileSystem) (p : Path) :
    Host.isDirectory fs p = fs.isDirectory p := rfl

@[simp] lemma list_ample (fs : FileSystem) (p : Path) : Host.list fs p = fs.list p := rfl

@[simp] lemma read_ample (fs : FileSystem) (p : Path) : Host.read fs p = fs.read p := rfl

@[simp] lemma sameEntry_ample (fs : FileSystem) (p q : Path) :
    Host.sameEntry fs p q = fs.sameEntry p q := rfl

@[simp] lemma encode_ample (text : String) : Host.encode text = .ok text.toByteArray := rfl

@[simp] lemma makeDirectories_ample (fs : FileSystem) (existingOk : Bool) (p : Path) :
    Host.makeDirectories fs existingOk p = fs.makeDirectories existingOk p := rfl

/-- A host that is ample but for some calls, which it refuses. The reason is none that is taken for there
being nothing. -/
@[reducible]
def refusing (reason : Refusal) (refused : Call → Path → Bool)
    (hreason : ∀ p, FileSystem.meansAbsent (reason.onPath p) = false) : Host where
  refuses call _ p := if refused call p then some reason else none
  breaksOff _ _ _ := none
  unencodable _ := none
  not_absent_of_refuses _ p r h := by
    obtain rfl := Option.some.inj (Option.ite_none_right_eq_some.mp h).2
    exact hreason p

/-- A host that does not tell what lies in a directory, for that may not be searched. -/
@[reducible]
def unsearchable (directory : Path) : Host :=
  refusing (.fault .permissionDenied) (fun call p => call = .status && p.parent = directory) fun _ => rfl

/-! ## Questions -/

section Questions

variable [Host]

/-- A call that is not gone through with fails for the reason that the host gives. -/
lemma exists_refusal_of_permits {call : Call} (h : permits call fs p = .error f) :
    ∃ r, refuses call fs p = some r ∧ f = r.onPath p := by
  unfold permits at h
  cases hr : refuses call fs p with
  | none => simp [hr] at h
  | some r =>
      simp only [hr, Except.error.injEq] at h
      exact ⟨r, rfl, h.symm⟩

/-- What is done on a host succeeds if the host permits the call and the rest succeeds. -/
lemma permits_bind_eq_ok {α : Type} {call : Call} {x : Except Failure α} {a : α}
    (h : (do permits call fs p; x) = .ok a) : x = .ok a := by
  cases hpermits : permits call fs p with
  | error f => simp [hpermits, bind, Except.bind] at h
  | ok u => simpa [hpermits, bind, Except.bind] using h

/-- What is done on a host fails because the call is refused, or because the rest fails. -/
lemma permits_bind_eq_error {α : Type} {call : Call} {x : Except Failure α}
    (h : (do permits call fs p; x) = .error f) :
    (∃ r, refuses call fs p = some r ∧ f = r.onPath p) ∨ x = .error f := by
  cases hpermits : permits call fs p with
  | error f' =>
      simp only [hpermits, bind, Except.bind, Except.error.injEq] at h
      exact .inl (exists_refusal_of_permits (h ▸ hpermits))
  | ok u => exact .inr (by simpa [hpermits, bind, Except.bind] using h)

/-- What the host permits to be asked is answered from the files. -/
lemma isDirectory_of_permits (h : permits .status fs p = .ok ()) :
    Host.isDirectory fs p = fs.isDirectory p := by
  simp [Host.isDirectory, h, bind, Except.bind]

/-- What the host permits to be read is read from the files. -/
lemma read_of_permits (h : permits .read fs p = .ok ()) : Host.read fs p = fs.read p := by
  simp [Host.read, h, bind, Except.bind]

/-- Two paths that the host permits to be asked for are compared in the files. -/
lemma sameEntry_of_permits (hp : permits .status fs p = .ok ()) (hq : permits .status fs q = .ok ()) :
    Host.sameEntry fs p q = fs.sameEntry p q := by
  simp [Host.sameEntry, hp, hq]

/-- An answer on a host is the answer of the files. -/
lemma isDirectory_eq_ok (h : Host.isDirectory fs p = .ok isDir) : fs.isDirectory p = .ok isDir :=
  permits_bind_eq_ok h

/-- A directory that is listed on a host is listed as the files have it. -/
lemma list_eq_ok (h : Host.list fs p = .ok names) : fs.list p = .ok names :=
  permits_bind_eq_ok h

/-- A file that is read on a host has the content that the files have. -/
lemma read_eq_ok (h : Host.read fs p = .ok content) : fs.read p = .ok content :=
  permits_bind_eq_ok h

/-- An encoded text is its bytes. -/
lemma encode_eq_ok (h : Host.encode text = .ok content) : content = text.toByteArray := by
  unfold Host.encode at h
  split at h
  · exact (Except.ok.inj h).symm
  · cases h

/-- A text that cannot be encoded is one of which the host says so. -/
lemma encode_eq_error (h : Host.encode text = .error f) :
    ∃ reason, unencodable text = some reason ∧ f = .unencodable reason := by
  unfold Host.encode at h
  split at h
  · cases h
  · exact ⟨_, ‹_›, (Except.error.inj h).symm⟩

/-! ## Changes -/

/-- Directories are made as the files say, or the call is refused and nothing changes. -/
lemma makeDirectories_cases {existingOk : Bool}
    (h : Host.makeDirectories fs existingOk p = (outcome, fs')) :
    fs.makeDirectories existingOk p = (outcome, fs') ∨
      ∃ r, refuses .make fs p = some r ∧ outcome = .error (r.onPath p) ∧ fs' = fs := by
  unfold Host.makeDirectories at h
  split at h
  · exact .inl h
  · obtain ⟨rfl, rfl⟩ := Prod.mk.inj h
    obtain ⟨r, hr, rfl⟩ := exists_refusal_of_permits ‹_›
    exact .inr ⟨r, hr, rfl, rfl⟩

/-- A directory that is made on a host is made as in the files. -/
lemma makeDirectories_eq_ok {existingOk : Bool}
    (h : Host.makeDirectories fs existingOk p = (.ok (), fs')) :
    fs.makeDirectories existingOk p = (.ok (), fs') := by
  rcases makeDirectories_cases h with h | ⟨_, _, herror, _⟩
  · exact h
  · cases herror

/-- Where the host permits it, a directory is made or not as in the files. -/
lemma makeDirectories_of_permits (h : permits .make fs p = .ok ()) (existingOk : Bool) :
    Host.makeDirectories fs existingOk p = fs.makeDirectories existingOk p := by
  simp [Host.makeDirectories, h]

/-- Where the host permits it, a file is opened that can be written. -/
lemma exists_openFile_of_permits (h : permits .write fs p = .ok ())
    (hwrite : fs.write p content = .ok fs') : ∃ l, openFile fs p = .ok l := by
  rw [FileSystem.write_eq_map] at hwrite
  cases htarget : fs.fileTarget p with
  | error f =>
      rw [htarget] at hwrite
      cases hwrite
  | ok l => exact ⟨l, by simp [openFile, h, htarget, bind, Except.bind]⟩

/-- A file is not opened because the call is refused, or because no file can be written there. -/
lemma openFile_eq_error (h : openFile fs p = .error f) (content : ByteArray) :
    (∃ r, refuses .write fs p = some r ∧ f = r.onPath p) ∨ fs.write p content = .error f := by
  refine (permits_bind_eq_error h).imp_right fun htarget => ?_
  rw [FileSystem.write_eq_map, htarget]
  rfl

/-- The host breaks a write off when so many bytes of the content are in the file. -/
def CutsOff (fs : FileSystem) (p : Path) (content : ByteArray) (k : Nat) (r : Refusal) : Prop :=
  ∃ opened, fs.write p .empty = .ok opened ∧ breaksOff opened p content = some (k, r)

/-- What a write comes to: the file is not opened and nothing changes, or it is written, or the write is
broken off, and then the files are as if the first bytes had been all that was to be written. -/
lemma write_cases (h : Host.write fs p content = (outcome, fs')) :
    (∃ f, openFile fs p = .error f ∧ outcome = .error f ∧ fs' = fs) ∨
    (outcome = .ok () ∧ fs.write p content = .ok fs') ∨
    ∃ k r, CutsOff fs p content k r ∧ outcome = .error r.onOpenFile ∧
      fs.write p (content.extract 0 k) = .ok fs' := by
  unfold Host.write at h
  cases hopen : openFile fs p with
  | error f =>
      rw [hopen] at h
      obtain ⟨rfl, rfl⟩ := Prod.mk.inj h
      exact .inl ⟨f, rfl, rfl, rfl⟩
  | ok l =>
      have hwrite (bytes : ByteArray) : fs.write p bytes = .ok (fs.put l (.file bytes)) := by
        have htarget : fs.fileTarget p = .ok l := permits_bind_eq_ok hopen
        rw [FileSystem.write_eq_map, htarget]
        rfl
      simp only [hopen, FileSystem.put_put] at h
      cases hbreaks : breaksOff (fs.put l (.file .empty)) p content with
      | none =>
          simp only [hbreaks] at h
          obtain ⟨rfl, rfl⟩ := Prod.mk.inj h
          exact .inr (.inl ⟨rfl, hwrite content⟩)
      | some x =>
          obtain ⟨k, r⟩ := x
          simp only [hbreaks] at h
          obtain ⟨rfl, rfl⟩ := Prod.mk.inj h
          exact .inr (.inr ⟨k, r, ⟨_, hwrite .empty, hbreaks⟩, rfl, hwrite _⟩)

/-- The host goes through with every write that it has begun. -/
def Finishes : Prop :=
  ∀ fs p content, breaksOff fs p content = none

/-- A host that finishes what it writes breaks nothing off. -/
lemma Finishes.not_cutsOff {k : Nat} {r : Refusal} (h : Finishes) : ¬ CutsOff fs p content k r := by
  rintro ⟨opened, -, hbreaks⟩
  cases hbreaks.symm.trans (h opened p content)

end Questions

/-- The ample host finishes what it writes. -/
lemma finishes_ample : Finishes :=
  fun _ _ _ => rfl

/-- The ample host breaks no write off. -/
lemma not_cutsOff_ample {k : Nat} {r : Refusal} : ¬ CutsOff fs p content k r :=
  finishes_ample.not_cutsOff

/-- On the ample host a file is written as a whole or not at all. -/
lemma write_ample (fs : FileSystem) (p : Path) (content : ByteArray) :
    Host.write fs p content =
      match fs.write p content with
      | .ok fs' => (.ok (), fs')
      | .error f => (.error f, fs) := by
  have hopen : openFile fs p = fs.fileTarget p := rfl
  unfold Host.write
  rw [FileSystem.write_eq_map, hopen]
  cases fs.fileTarget p with
  | error f => rfl
  | ok l =>
      show (Except.ok (), (fs.put l (.file .empty)).put l (.file content)) = _
      rw [FileSystem.put_put]
      rfl

/-- What the files take is written on the ample host. -/
lemma write_ample_of_ok (h : fs.write p content = .ok fs') :
    Host.write fs p content = (.ok (), fs') := by
  rw [write_ample, h]

end Host

end Scaffold
