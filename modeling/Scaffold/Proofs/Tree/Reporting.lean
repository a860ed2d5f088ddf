import Mathlib.Tactic.Lemma
import Scaffold.Proofs.FileSystem.Refusing
import Scaffold.Proofs.Template.Provenance
import Scaffold.Proofs.Tree.Confinement
import Scaffold.Proofs.Tree.Lookup

/-!
# Problems that are not reported

Most problems of a rendering are reported to the user. Those that are not have one of four reasons: a path
holds the null character; a text or a path has no encoding; the calls of the program lie too deep within
each other; or the host does not tell whether a path leads to a directory, be it that the path is too
long, or that a directory on its way may not be searched, or that a disk is at fault.

* `Renderer.NullFree`: no null character comes from the bindings or the conventions.
* `Failure.Explained`: a failure comes from the files or from what the host refuses.
* `Accounts`: a problem is one that is reported, or one of the others, with the reason for it.
* `accountable_renderTree`, `accountable_renderTemplate`: a rendering ends with no other problems.
-/

namespace Scaffold

/-! ## Names without null characters -/

namespace Text

variable {s pattern replacement : String} {cs ds p : List Char} {c : Char} {k : Nat}

/-- Substituting brings in the characters of the replacement and no other ones. -/
lemma mem_substitute (h : c ∈ substitute p ds k cs) : c ∈ ds ∨ c ∈ cs := by
  induction cs generalizing k with
  | nil => cases k <;> simp [substitute] at h
  | cons d cs ih =>
      cases k with
      | succ k =>
          rw [substitute] at h
          exact (ih h).imp_right (List.mem_cons_of_mem d)
      | zero =>
          rw [substitute] at h
          split at h
          · rcases List.mem_append.mp h with h | h
            · exact .inl h
            · exact (ih h).imp_right (List.mem_cons_of_mem d)
          · rcases List.mem_cons.mp h with rfl | h
            · exact .inr List.mem_cons_self
            · exact (ih h).imp_right (List.mem_cons_of_mem d)

/-- Interleaving brings in the characters of the replacement and no other ones. -/
lemma mem_interleave (h : c ∈ interleave ds cs) : c ∈ ds ∨ c ∈ cs := by
  induction cs with
  | nil => exact .inl h
  | cons d cs ih =>
      rw [interleave] at h
      rcases List.mem_append.mp h with h | h
      · exact .inl h
      rcases List.mem_cons.mp h with rfl | h
      · exact .inr List.mem_cons_self
      · exact (ih h).imp_right (List.mem_cons_of_mem d)

/-- A character of a text in which a pattern has been replaced stands in the replacement or in the
text. -/
lemma mem_replaceAll (h : c ∈ (replaceAll s pattern replacement).toList) :
    c ∈ replacement.toList ∨ c ∈ s.toList := by
  rw [replaceAll, String.toList_ofList] at h
  split at h
  · exact mem_interleave h
  · exact mem_substitute h

end Text

namespace Tree

open FileSystem Template

namespace Renderer

variable {r : Renderer} {n t : String} {isTemplate : Bool}

/-- No null character comes from the bindings, or from the names that files get as a whole. -/
structure NullFree (r : Renderer) : Prop where
  bindings : r.bindings.Only (· ≠ '\x00')
  renames : ∀ x ∈ r.conventions.renames, Scaffold.NullFree x.2

/-- Where the module goes, no null character comes in. -/
lemma NullFree.placeModule (hr : r.NullFree) (hn : Scaffold.NullFree n) :
    Scaffold.NullFree (r.conventions.placeModule r.bindings n) := by
  unfold Conventions.placeModule
  cases hget : r.bindings.get? r.conventions.moduleBinding with
  | none => exact hn
  | some module =>
      intro c hc
      rcases Text.mem_replaceAll hc with hc | hc
      · exact hr.bindings _ _ hget c hc
      · exact hn c hc

/-- The name that a directory is rendered to has no null character. -/
lemma NullFree.directoryName (hr : r.NullFree) (hn : Scaffold.NullFree n)
    (h : r.directoryName n = .ok t) : Scaffold.NullFree t :=
  only_render hr.bindings (hr.placeModule hn) h

/-- A name is cut off at the suffix of templates, and gains nothing. -/
lemma nullFree_stripSuffix {c : Conventions} (hn : Scaffold.NullFree n) :
    Scaffold.NullFree (c.stripSuffix n).1 := by
  unfold Conventions.stripSuffix Text.dropSuffix?
  by_cases hnone : c.templateSuffix = ""
  · rw [if_pos hnone]
    exact hn
  · rw [if_neg hnone]
    split
    · rename_i stem hstem
      split at hstem
      · obtain rfl := Option.some.inj hstem
        intro d hd
        rw [String.toList_ofList] at hd
        exact hn d (List.mem_of_mem_take hd)
      · cases hstem
    · exact hn

/-- The name of a file after it may have got another one as a whole, before the suffix is looked at. -/
def renamed (r : Renderer) (n : String) : String :=
  let placed := r.conventions.placeModule r.bindings n
  (r.conventions.renames.lookup placed).getD placed

/-- The name of a file is that of its front part, rendered. -/
lemma fileName_eq (r : Renderer) (n : String) :
    r.fileName n =
      (r.renderText (r.conventions.stripSuffix (r.renamed n)).1).map
        (·, (r.conventions.stripSuffix (r.renamed n)).2) :=
  rfl

/-- A file that has another name by convention has one without a null character. -/
lemma NullFree.renamed (hr : r.NullFree) (hn : Scaffold.NullFree n) :
    Scaffold.NullFree (r.renamed n) := by
  unfold Renderer.renamed
  cases hlookup : r.conventions.renames.lookup (r.conventions.placeModule r.bindings n) with
  | none => simpa [hlookup] using hr.placeModule hn
  | some m =>
      obtain ⟨before, after, hrenames, -⟩ := List.lookup_eq_some_iff.mp hlookup
      have hmem : (r.conventions.placeModule r.bindings n, m) ∈ r.conventions.renames := by
        rw [hrenames]
        exact List.mem_append_right _ List.mem_cons_self
      simpa [hlookup] using hr.renames _ hmem

/-- The name that a file is rendered to has no null character. -/
lemma NullFree.fileName (hr : r.NullFree) (hn : Scaffold.NullFree n)
    (h : r.fileName n = .ok (t, isTemplate)) : Scaffold.NullFree t := by
  rw [fileName_eq] at h
  cases hrender : r.renderText (r.conventions.stripSuffix (r.renamed n)).1 with
  | error e =>
      rw [hrender] at h
      cases h
  | ok text =>
      rw [hrender] at h
      obtain ⟨rfl, -⟩ := Prod.mk.inj (Except.ok.inj h)
      exact only_render hr.bindings (nullFree_stripSuffix (hr.renamed hn)) hrender

/-! ## Texts that do not render -/

/-- A text does not fail to render because it holds something that is no statement. -/
lemma isExpected_of_renderText {text : String} {e : RenderError} (h : r.renderText text = .error e) :
    (Problem.template e).isExpected = true := by
  cases e with
  | syntaxError e => rfl
  | evaluationError e =>
      cases e with
      | unbound name => rfl
      | notAStatement typeName => exact absurd h render_ne_notAStatement

/-- The name of a directory fails to render with a template error only. -/
lemma isExpected_of_directoryName {e : RenderError} (h : r.directoryName n = .error e) :
    (Problem.template e).isExpected = true :=
  isExpected_of_renderText h

/-- The name of a file fails to render with a template error only. -/
lemma isExpected_of_fileName {e : RenderError} (h : r.fileName n = .error e) :
    (Problem.template e).isExpected = true := by
  rw [fileName_eq] at h
  cases hrender : r.renderText (r.conventions.stripSuffix (r.renamed n)).1 with
  | ok text =>
      rw [hrender] at h
      cases h
  | error e' =>
      rw [hrender] at h
      obtain rfl := Except.error.inj h
      exact isExpected_of_renderText hrender

end Renderer

/-! ## Failures that are explained -/

variable [Host] {clean clean' : Prop} {root output p q source target : Path} {α β : Type}
  {w : Workspace} {r : Renderer} {fs fs' : FileSystem} {f : Failure} {x : Refusal}
  {content : ByteArray}

/-- The host gives a reason not to go through with something: it refuses a call, or breaks a write off, or
a text cannot be encoded. -/
def Gives (fs : FileSystem) (x : Refusal) : Prop :=
  (∃ call p, Host.refuses call fs p = some x) ∨
  (∃ opened p content k, Host.breaksOff opened p content = some (k, x)) ∨
  ∃ text reason, Host.unencodable text = some reason ∧ x = .unencodable reason

/-- A failure comes from the files, and not from a null character if they are `clean`, or from what the
host does not go through with. -/
def Explained (clean : Prop) (fs : FileSystem) (f : Failure) : Prop :=
  f.OfFiles clean ∨ ∃ x, Gives fs x ∧ ((∃ p, f = x.onPath p) ∨ f = x.onOpenFile)

/-- What is explained under a condition is so under a stronger one. -/
lemma Explained.mono (hf : Explained clean fs f) (h : clean' → clean) : Explained clean' fs f :=
  hf.imp_left fun hfiles => hfiles.mono h

/-- A refusal of the host is explained by the host. -/
lemma explained_of_refuses {call : Call} (h : Host.refuses call fs p = some x) :
    Explained clean fs (x.onPath p) :=
  .inr ⟨x, .inl ⟨call, p, h⟩, .inl ⟨p, rfl⟩⟩

/-- A call fails because the host does not permit it, or for a reason of the files. -/
lemma explained_of_permits_bind {call : Call} {y : Except Failure α}
    (hy : y = .error f → f.OfFiles clean) (h : (do Host.permits call fs p; y) = .error f) :
    Explained clean fs f := by
  rcases Host.permits_bind_eq_error h with ⟨x, hx, rfl⟩ | h
  · exact explained_of_refuses hx
  · exact .inl (hy h)

/-- Why a directory cannot be listed. -/
lemma explained_of_list (h : Host.list fs p = .error f) : Explained p.NullFree fs f :=
  explained_of_permits_bind ofFiles_of_list h

/-- Why a file cannot be read. -/
lemma explained_of_read (h : Host.read fs p = .error f) : Explained p.NullFree fs f :=
  explained_of_permits_bind ofFiles_of_read h

/-- Why two paths cannot be compared. -/
lemma explained_of_sameEntry (h : Host.sameEntry fs p q = .error f) :
    Explained (p.NullFree ∧ q.NullFree) fs f := by
  unfold Host.sameEntry at h
  split at h
  · exact .inl (ofFiles_of_sameEntry h)
  · cases h

/-- Why a file cannot be opened for writing. -/
lemma explained_of_openFile (h : Host.openFile fs p = .error f) : Explained p.NullFree fs f := by
  rcases Host.openFile_eq_error h .empty with ⟨x, hx, rfl⟩ | hwrite
  · exact explained_of_refuses hx
  · exact .inl (ofFiles_of_write hwrite)

/-- A writing that is broken off is explained by the host. -/
lemma explained_of_cutsOff {k : Nat} (h : Host.CutsOff fs p content k x) :
    Explained clean fs' x.onOpenFile := by
  obtain ⟨opened, -, hbreaks⟩ := h
  exact .inr ⟨x, .inr (.inl ⟨opened, p, content, k, hbreaks⟩), .inr rfl⟩

/-- Why a directory cannot be made. -/
lemma explained_of_makeDirectories {existingOk : Bool}
    (h : Host.makeDirectories fs existingOk p = (.error f, fs')) : Explained p.NullFree fs' f := by
  rcases Host.makeDirectories_cases h with h | ⟨x, hx, herror, rfl⟩
  · exact .inl (ofFiles_of_makeDirectories (congrArg Prod.fst h))
  · rw [Except.error.inj herror]
    exact explained_of_refuses hx

/-! ## Accounts of a problem -/

/-- A problem is one that is reported. Otherwise a path held the null character, which only happens if
not all is free of it; or the host says that something has no encoding, or that calls lie too deep; or it
does not tell whether the path of an entry, or of the tree itself, leads to a directory. -/
inductive Accounts (clean : Prop) (root : Path) : Problem → Workspace → Prop
  | reported {problem : Problem} {w : Workspace} :
    problem.isExpected = true → Accounts clean root problem w
  | null {w : Workspace} : ¬ clean → Accounts clean root (.unanswered .nullCharacter) w
  | unencodable {reason : String} {w : Workspace} : Gives w.files (.unencodable reason) →
      Accounts clean root (.unanswered (.unencodable reason)) w
  | tooDeep {w : Workspace} : Gives w.files .tooDeep → Accounts clean root (.unanswered .tooDeep) w
  | unanswered {fault : Fault} {w : Workspace} (names : List String) :
    Host.isDirectory w.files (root.below names) = .error (.system fault (root.below names)) →
      Accounts clean root (.unanswered (.system fault (root.below names))) w

/-- The faults that the system finds become problems that are reported, and no other failures do. -/
structure TakesUp (toProblem : Failure → Problem) : Prop where
  system : ∀ fault p, (toProblem (.system fault p)).isExpected = true
  brokenOff : ∀ fault, (toProblem (.brokenOff fault)).isExpected = true
  nullCharacter : toProblem .nullCharacter = .unanswered .nullCharacter
  unencodable : ∀ reason, toProblem (.unencodable reason) = .unanswered (.unencodable reason)
  tooDeep : toProblem .tooDeep = .unanswered .tooDeep

omit [Host] in
/-- Every activity makes a problem of what the system reports, and lets the rest pass. -/
lemma takesUp_ofFailure (activity : Activity) (subject : Path) : TakesUp (.ofFailure activity subject) :=
  ⟨fun _ _ => rfl, fun _ => rfl, rfl, fun _ => rfl, rfl⟩

omit [Host] in
/-- So does copying. -/
lemma takesUp_ofCopyFailure (source target : Path) : TakesUp (.ofCopyFailure source target) :=
  ⟨fun _ _ => rfl, fun _ => rfl, rfl, fun _ => rfl, rfl⟩

/-- A failure that is explained becomes a problem that is accounted for. -/
lemma TakesUp.accounts {toProblem : Failure → Problem} (h : TakesUp toProblem)
    (hf : Explained clean w.files f) : Accounts clean root (toProblem f) w := by
  rcases hf with hf | ⟨x, hx, hfailure⟩
  · cases hf with
    | system fault path => exact .reported (h.system fault path)
    | nullCharacter hnot =>
        rw [h.nullCharacter]
        exact .null hnot
  · cases x with
    | fault fault =>
        rcases hfailure with ⟨p, rfl⟩ | rfl
        · exact .reported (h.system fault p)
        · exact .reported (h.brokenOff fault)
    | unencodable reason =>
        obtain rfl : f = .unencodable reason := hfailure.elim (fun ⟨_, heq⟩ => heq) id
        rw [h.unencodable]
        exact .unencodable hx
    | tooDeep =>
        obtain rfl : f = .tooDeep := hfailure.elim (fun ⟨_, heq⟩ => heq) id
        rw [h.tooDeep]
        exact .tooDeep hx

/-- Work whose problems are accounted for. It brings no null character in, and of its answer `Q`
holds. -/
def Work.Accountable (clean : Prop) (root : Path) (x : Work α) (Q : α → Prop) : Prop :=
  ∀ w : Workspace, (clean → w.files.NullFree) →
    Ends x w (fun a w' => (clean → w'.files.NullFree) ∧ Q a) (Accounts clean root)

namespace Work

variable {x : Work α} {g : α → Work β} {Q : α → Prop} {Q' : β → Prop} {onFailure : Failure → Problem}

/-- Nothing is accounted for where nothing is done. -/
lemma accountable_pure {a : α} (h : Q a) : Accountable clean root (pure a) Q :=
  fun _ hw => ends_pure ⟨hw, h⟩

/-- A problem that is expected may be raised. -/
lemma accountable_throw {problem : Problem} (h : problem.isExpected = true) :
    Accountable clean root (throw problem : Work α) Q :=
  fun _ _ => ends_throw (.reported h)

/-- Steps in a row account for their problems if each of them does. -/
lemma Accountable.bind (hx : Accountable clean root x Q)
    (hg : ∀ a, Q a → Accountable clean root (g a) Q') : Accountable clean root (x >>= g) Q' :=
  fun w hw => Ends.bind ((hx w hw).mono (fun a w' h => hg a h.2 w' h.1) fun _ _ h => h)

/-- Telling of what is done raises no problem. -/
lemma accountable_note (e : Event) : Accountable clean root (note e) fun _ => True :=
  fun _ hw => ends_note ⟨hw, trivial⟩

/-- A question about the files accounts for its problems if its failures are explained. -/
lemma accountable_ask {question : FileSystem → Except Failure α} {activity : Activity}
    {subject : Path} (hok : ∀ fs : FileSystem, (clean → fs.NullFree) → ∀ a, question fs = .ok a → Q a)
    (herror : ∀ fs f, question fs = .error f → Explained clean fs f) :
    Accountable clean root (ask (.ofFailure activity subject) question) Q := by
  intro w hw
  exact ends_ask (fun a ha => ⟨hw, hok _ hw a ha⟩) fun f hf =>
    (takesUp_ofFailure activity subject).accounts (herror _ f hf)

/-- That the host does not tell what lies at a path is accounted for. -/
lemma accountable_ask_isDirectory (names : List String) :
    Accountable clean root (ask .unanswered (Host.isDirectory · (root.below names))) fun isDir =>
      isDir = true → (root.below names).NullFree := by
  intro w hw
  refine ends_ask (fun isDir hdir => ⟨hw, ?_⟩) fun f hf => ?_
  · rintro rfl
    exact nullFree_of_isDirectory (Host.isDirectory_eq_ok hdir)
  rcases Host.permits_bind_eq_error hf with ⟨x, hx, rfl⟩ | hfiles
  · cases x with
    | fault fault => exact .unanswered names hf
    | unencodable reason =>
        -- what has no encoding is taken for what is not there
        cases Host.not_absent_of_refuses _ _ _ hx
    | tooDeep => exact .tooDeep (.inl ⟨_, _, hx⟩)
  · obtain rfl := isDirectory_eq_error hfiles
    exact .unanswered names hf

/-- A result is taken over if its errors become expected problems. -/
lemma accountable_lift {ε : Type} {onError : ε → Problem} {y : Except ε α}
    (hok : ∀ a, y = .ok a → Q a) (herror : ∀ e, y = .error e → (onError e).isExpected = true) :
    Accountable clean root (lift onError y) Q :=
  fun _ hw => ends_lift (fun a ha => ⟨hw, hok a ha⟩) fun e he => .reported (herror e he)

/-- A text that cannot be encoded is accounted for. -/
lemma accountable_encode (text : String) :
    Accountable clean root (lift .unanswered (Host.encode text)) fun _ => True := by
  intro w hw
  refine ends_lift (fun _ _ => ⟨hw, trivial⟩) fun f hf => ?_
  obtain ⟨reason, hreason, rfl⟩ := Host.encode_eq_error hf
  exact .unencodable (.inr (.inr ⟨text, reason, hreason, rfl⟩))

/-- Writing a file accounts for its problems. -/
lemma accountable_write (h : TakesUp onFailure) (content : ByteArray) (htarget : clean → target.NullFree) :
    Accountable clean root (attempt onFailure (Host.write · target content)) fun _ => True := by
  intro w hw
  refine ends_write (fun fs hfs => ⟨fun hclean => ?_, trivial⟩) (fun f hf => ?_) fun k x fs hcut _ => ?_
  · exact (hw hclean).write (htarget hclean) hfs
  · exact h.accounts ((explained_of_openFile hf).mono htarget)
  · exact h.accounts (explained_of_cutsOff hcut)

/-- Making a directory accounts for its problems. -/
lemma accountable_makeDirectories (hp : clean → p.NullFree) :
    Accountable clean root (makeDirectories p) fun _ => True := by
  intro w hw
  refine ends_attempt (fun fs hfs => ⟨fun hclean => ?_, trivial⟩) fun f fs hf => ?_
  · exact (hw hclean).makeDirectories (hp hclean) (Host.makeDirectories_eq_ok hfs)
  · exact (takesUp_ofFailure _ _).accounts ((explained_of_makeDirectories hf).mono hp)

/-- Copying a file accounts for its problems. -/
lemma accountable_copy (hsource : clean → source.NullFree) (htarget : clean → target.NullFree) :
    Accountable clean root (copy source target) fun _ => True := by
  have hread : Accountable clean root (do
      let content ← ask (.ofFailure .copyFile source) (Host.read · source)
      attempt (.ofCopyFailure source target) (Host.write · target content)) fun _ => True :=
    (accountable_ask (Q := fun _ => True) (fun _ _ _ _ => trivial)
      fun _ _ hf => (explained_of_read hf).mono hsource).bind fun content _ =>
        accountable_write (takesUp_ofCopyFailure source target) content htarget
  refine (accountable_ask (Q := fun _ => True) (fun _ _ _ _ => trivial) fun _ _ hf =>
    (explained_of_sameEntry hf).mono fun hclean => ⟨hsource hclean, htarget hclean⟩).bind
      fun same _ => ?_
  cases same with
  | false => exact hread
  | true => exact (accountable_throw (Q := fun _ => False) rfl).bind fun _ h => h.elim

end Work

/-! ## Renderings -/

namespace Renderer

open Work

variable {names : List String} {n : String} {descend : Path → Path → Work (List Path)}

/-- Rendering a file is accounted for. -/
lemma accountable_renderFile (hsource : clean → source.NullFree)
    (htarget : clean → target.NullFree) :
    Accountable clean root (r.renderFile source target) fun _ => True := by
  refine Accountable.bind (Q := fun _ => True) ?_ fun template _ => ?_
  · refine (accountable_ask (Q := fun _ => True) (fun _ _ _ _ => trivial)
      fun _ _ hf => (explained_of_read hf).mono hsource).bind fun content _ => ?_
    exact accountable_lift (fun _ _ => trivial) fun _ _ => rfl
  · refine (accountable_lift (Q := fun _ => True) (fun _ _ => trivial)
      fun e he => isExpected_of_renderText he).bind fun text _ => ?_
    exact (accountable_encode text).bind fun content _ =>
      accountable_write (takesUp_ofFailure .writeFile target) content htarget

variable (hclean : clean → r.NullFree)

include hclean

/-- Taking a file of a tree to its place accounts for its problems. -/
lemma accountable_visitFile (hp : clean → p.NullFree) (hq : clean → q.NullFree)
    (hn : clean → Scaffold.NullFree n) :
    Accountable clean root (r.visitFile p q n) fun _ => True := by
  have hsource : clean → (p.child n).NullFree := fun h => (hp h).child (hn h)
  unfold visitFile
  refine (accountable_lift (Q := fun x => clean → Scaffold.NullFree x.1) (fun x hx h => ?_)
    fun e he => isExpected_of_fileName he).bind fun x hx => ?_
  · exact (hclean h).fileName (hn h) hx
  obtain ⟨t, isTemplate⟩ := x
  have htarget : clean → (q.join (.ofString t)).NullFree := fun h => (hq h).join (hx h).ofString
  cases isTemplate with
  | true =>
      refine (accountable_note _).bind fun _ _ => ?_
      refine (accountable_renderFile hsource htarget).bind fun _ _ => ?_
      exact accountable_pure trivial
  | false =>
      refine (accountable_note _).bind fun _ _ => ?_
      refine (accountable_copy hsource htarget).bind fun _ _ => ?_
      exact accountable_pure trivial

/-- The problems of a visit are accounted for if those of the descent into directories are. -/
lemma accountable_visit (hq : clean → q.NullFree) (hp : clean → (root.below names).NullFree)
    (hn : clean → Scaffold.NullFree n)
    (hdescend : ∀ q, (clean → q.NullFree) → (clean → (root.below (names ++ [n])).NullFree) →
      Accountable clean root (descend (root.below (names ++ [n])) q) fun _ => True) :
    Accountable clean root (r.visit descend (root.below names) q n) fun _ => True := by
  by_cases hignored : n ∈ r.conventions.ignoredNames
  · simp only [visit, if_pos hignored]
    exact (accountable_note _).bind fun _ _ => accountable_pure trivial
  · simp only [visit, if_neg hignored, Path.child_below]
    refine (accountable_ask_isDirectory (names ++ [n])).bind fun isDir hdir => ?_
    cases isDir with
    | false => exact accountable_visitFile hclean hp hq hn
    | true =>
        simp only [if_true]
        refine (accountable_lift (Q := fun t => clean → Scaffold.NullFree t) (fun t ht h => ?_)
          fun e he => isExpected_of_directoryName he).bind fun t ht => ?_
        · exact (hclean h).directoryName (hn h) ht
        have htarget : clean → (q.join (.ofString t)).NullFree :=
          fun h => (hq h).join (ht h).ofString
        exact (accountable_makeDirectories htarget).bind fun _ _ =>
          hdescend _ htarget fun _ => hdir rfl

/-- Rendering a directory accounts for its problems, at any depth. The induction is on the depth that is
left. -/
lemma accountable_renderDirectory (depth : Nat) (hp : clean → (root.below names).NullFree)
    (hq : clean → q.NullFree) :
    Accountable clean root (r.renderDirectory depth (root.below names) q) fun _ => True := by
  induction depth generalizing names q with
  | zero => exact accountable_throw rfl
  | succ depth ih =>
      refine (accountable_ask (Q := fun ns => clean → ∀ n ∈ ns, Scaffold.NullFree n)
        (fun fs hfs ns hlist h n hn => (hfs h).of_list (Host.list_eq_ok hlist) hn)
        fun _ _ hf => (explained_of_list hf).mono hp).bind fun ns hns w hw => ?_
      have hvisits : Ends (visitAll (r.visit (r.renderDirectory depth) (root.below names) q)
          (sortNames ns)) w (fun _ w' => clean → w'.files.NullFree) (Accounts clean root) := by
        refine ends_visitAll_of_invariant (I := fun w => clean → w.files.NullFree) ?_ hw
        intro n hn w hw
        have hvisit := accountable_visit hclean hq hp (fun h => hns h n (List.mem_mergeSort.mp hn))
          (fun q' hq' hp' => ih hp' hq') w hw
        exact hvisit.mono (fun _ _ h => h.1) fun _ _ h => h
      exact hvisits.mono (fun _ _ h => ⟨h, trivial⟩) fun _ _ h => h

/-- The problems with which rendering a tree ends are accounted for. -/
theorem accountable_renderTree (hq : clean → q.NullFree) :
    Accountable clean root (r.renderTree root q) fun _ => True := by
  have hdir : Accountable clean root (ask .unanswered (Host.isDirectory · (root.below [])))
      fun isDir => isDir = true → (root.below []).NullFree := accountable_ask_isDirectory []
  rw [Path.below_nil] at hdir
  refine hdir.bind fun isDir hroot => ?_
  have hrest : isDir = true → Accountable clean root (do
      makeDirectories q
      r.renderDirectory pathLimit root q) fun _ => True := by
    intro htrue
    have hrender : Accountable clean root (r.renderDirectory pathLimit (root.below []) q)
        fun _ => True :=
      accountable_renderDirectory hclean pathLimit
        (fun _ => by rw [Path.below_nil]; exact hroot htrue) hq
    rw [Path.below_nil] at hrender
    exact (accountable_makeDirectories hq).bind fun _ _ => hrender
  cases isDir with
  | true => exact hrest rfl
  | false => exact (accountable_throw (Q := fun _ => False) rfl).bind fun _ h => h.elim

/-- The problems with which rendering a template ends are accounted for. -/
theorem accountable_renderTemplate {name : String} (hq : clean → q.NullFree) :
    Accountable clean (Catalog.pathOf root name) (renderTemplate r root name q) fun _ => True := by
  have hdir : Accountable clean (Catalog.pathOf root name)
      (ask .unanswered (Host.isDirectory · ((Catalog.pathOf root name).below [])))
      fun isDir => isDir = true → ((Catalog.pathOf root name).below []).NullFree :=
    accountable_ask_isDirectory []
  rw [Path.below_nil] at hdir
  have hfind : Accountable clean (Catalog.pathOf root name) (Catalog.find root name)
      fun path => path = Catalog.pathOf root name := by
    refine hdir.bind fun isDir _ => ?_
    cases isDir with
    | true => exact accountable_pure rfl
    | false => exact accountable_throw rfl
  refine hfind.bind fun path hpath => ?_
  subst hpath
  exact (accountable_note _).bind fun _ _ => accountable_renderTree hclean hq

end Renderer

/-! ## What renderings start from -/

/-- No null character stands in anything that a rendering starts from. -/
structure Clean (r : Renderer) (output : Path) (fs : FileSystem) : Prop where
  renderer : r.NullFree
  output : output.NullFree
  files : fs.NullFree

end Tree

end Scaffold
