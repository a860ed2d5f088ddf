import Mathlib.Tactic.Lemma
import Scaffold.Proofs.FileSystem.Changing
import Scaffold.Proofs.Tree.Stopping

/-!
# What renderings add

Nothing is assumed here of names, links or the output: a path goes where it leads. All that a rendering
does then is lay down directories where nothing was, and files where there was nothing or a file.

* `Expands`: entries have been laid down one step below others.
* `Adds`: the files laid down are those to which some paths lead in the end. `Adds.trans` puts two parts
  of a rendering together.
* `Visited`: the ways in which a visit succeeds.
* `onlyAdds_renderDirectory`: a rendering adds the files at the paths that it answers with. One that
  fails has only expanded the files.
-/

namespace Scaffold.Tree

open FileSystem Relation

variable {fs fs' fs'' : FileSystem} {p q : Path} {paths paths' : List Path} {l : Location} {e : Entry}
  {content : ByteArray} {outcome : Except Failure Unit} {existingOk : Bool}

/-! ## Files that have been added -/

/-- Entries have been laid down one step below others, where nothing of another kind was. -/
def Expands (fs fs' : FileSystem) : Prop :=
  ReflTransGen (Gains fun x => EndsInStep x.1) fs fs'

/-- An entry is a directory where nothing was, or one of the paths leads to its location. -/
def AddedFor (fs : FileSystem) (paths : List Path) (fs' : FileSystem) (x : Location × Entry) : Prop :=
  EndsInStep x.1 ∧ (x.2 = .directory ∧ fs.get? x.1 = none ∨
    ∃ p ∈ paths, ∃ content, fs'.find p = .ok (x.1, .file content))

/-- Directories have been laid down where nothing was, and files to which some paths lead. -/
structure Adds (fs : FileSystem) (paths : List Path) (fs' : FileSystem) : Prop where
  gained : ReflTransGen (Gains (AddedFor fs paths fs')) fs fs'
  written : ∀ p ∈ paths, ∃ l content, fs'.find p = .ok (l, .file content)

/-- What adds files expands them. -/
lemma Adds.expands (h : Adds fs paths fs') : Expands fs fs' :=
  gains_mono (fun _ hx => hx.1) h.gained

/-- Nothing is added. -/
lemma Adds.refl (fs : FileSystem) : Adds fs [] fs :=
  ⟨.refl, by simp⟩

/-- What is there stays there. -/
lemma Expands.isSome (h : Expands fs fs') (hl : (fs.get? l).isSome) : (fs'.get? l).isSome := by
  obtain ⟨e, hget⟩ := Option.isSome_iff_exists.mp hl
  obtain ⟨e', hget', -⟩ := kind_of_gains h hget
  rw [hget']
  rfl

/-- Where nothing is afterwards, nothing was before. -/
lemma Expands.get?_eq_none (h : Expands fs fs') (hl : fs'.get? l = none) : fs.get? l = none := by
  cases hget : fs.get? l with
  | none => rfl
  | some e =>
      have hsome := h.isSome (l := l) (by rw [hget]; rfl)
      rw [hl] at hsome
      cases hsome

/-- A path that leads to a file leads to it still, though its content may be another one. -/
lemma Expands.find_file (h : Expands fs fs') (hfind : fs.find p = .ok (l, .file content)) :
    ∃ content', fs'.find p = .ok (l, .file content') := by
  obtain ⟨e, hget, hkind⟩ := kind_of_gains h (get?_of_find hfind (by simp))
  cases e with
  | directory => cases hkind
  | link target => cases hkind
  | file content' => exact ⟨content', find_file_of_grows (grows_of_gains h) hfind hget⟩

/-- One part of a rendering after another. -/
lemma Adds.trans (first : Adds fs paths fs') (second : Adds fs' paths' fs'') :
    Adds fs (paths ++ paths') fs'' where
  gained := by
    refine ReflTransGen.trans (gains_mono ?_ first.gained) (gains_mono ?_ second.gained)
    · rintro x ⟨hstep, hdir | ⟨p, hp, content, hfind⟩⟩
      · exact ⟨hstep, .inl hdir⟩
      · obtain ⟨content', hfind'⟩ := second.expands.find_file hfind
        exact ⟨hstep, .inr ⟨p, List.mem_append_left _ hp, content', hfind'⟩⟩
    · rintro x ⟨hstep, ⟨hdir, hnone⟩ | ⟨p, hp, content, hfind⟩⟩
      · exact ⟨hstep, .inl ⟨hdir, first.expands.get?_eq_none hnone⟩⟩
      · exact ⟨hstep, .inr ⟨p, List.mem_append_right _ hp, content, hfind⟩⟩
  written := by
    intro p hp
    rcases List.mem_append.mp hp with hp | hp
    · obtain ⟨l, content, hfind⟩ := first.written p hp
      obtain ⟨content', hfind'⟩ := second.expands.find_file hfind
      exact ⟨l, content', hfind'⟩
    · exact second.written p hp

/-- Writing a file adds its path. -/
lemma adds_of_write (h : fs.write p content = .ok fs') : Adds fs [p] fs' := by
  obtain ⟨d, n, hn, -, htakes, hfs', hfind⟩ := write_eq_ok h
  refine ⟨.single ?_, by simpa using ⟨_, _, hfind⟩⟩
  rw [hfs'] at hfind ⊢
  exact .intro ⟨⟨d, n, hn, rfl⟩, .inr ⟨p, by simp, content, hfind⟩⟩ htakes

/-- Making directories adds no file. -/
lemma adds_of_makeDirectories (h : fs.makeDirectories existingOk p = (outcome, fs')) :
    Adds fs [] fs' := by
  refine ⟨gains_mono ?_ (gains_of_makeDirectories_any h), by simp⟩
  rintro x ⟨hdir, hnone, hstep⟩
  exact ⟨hstep, .inl ⟨hdir, hnone⟩⟩

/-- Work that adds the files at the paths that it answers with, and only expands the files when it
fails. -/
def Work.OnlyAdds (x : Work (List Path)) : Prop :=
  ∀ w, Ends x w (fun paths w' => Adds w.files paths w'.files) fun _ w' => Expands w.files w'.files

namespace Renderer

open Work

variable {r : Renderer} {root output : Path} {n : String} {names : List String} {w w' : Workspace}
  {descend : Path → Path → Work (List Path)}

/-! ## Single visits -/

/-- A template file is read and what it renders to is written, or nothing changes. -/
lemma ends_renderFile_any (r : Renderer) (p q : Path) (w : Workspace) :
    Ends (r.renderFile p q) w
      (fun _ w' => ∃ content template text, w.files.read p = .ok content ∧
        Text.Utf8.decode content = .ok template ∧ r.renderText template = .ok text ∧
        w.files.write q text.toByteArray = .ok w'.files)
      (fun _ w' => w'.files = w.files) := by
  unfold renderFile readTemplate writeText
  refine Ends.bind (Ends.bind (ends_ask (fun content hread => ?_) fun _ _ => rfl))
  refine ends_lift (fun template hdecode => ?_) fun _ _ => rfl
  refine Ends.bind (ends_lift (fun text htext => ?_) fun _ _ => rfl)
  refine Ends.bind (ends_lift (fun bytes hencode => ?_) fun _ _ => rfl)
  obtain rfl := Host.encode_eq_ok hencode
  refine ends_write_ample (fun fs' hwrite => ?_) fun _ _ => rfl
  exact ⟨content, template, text, hread, hdecode, htext, hwrite⟩

/-- A file is read and written, or nothing changes. -/
lemma ends_copy_any (p q : Path) (w : Workspace) :
    Ends (copy p q) w
      (fun _ w' => ∃ content, w.files.read p = .ok content ∧
        w.files.write q content = .ok w'.files)
      (fun _ w' => w'.files = w.files) := by
  unfold copy
  refine Ends.bind (ends_ask (fun same _ => ?_) fun _ _ => rfl)
  cases same with
  | true => exact Ends.bind (ends_throw rfl)
  | false =>
      simp only [Bool.false_eq_true, if_false]
      refine Ends.bind (ends_ask (fun content hread => ?_) fun _ _ => rfl)
      exact ends_write_ample (fun fs' hwrite => ⟨content, hread, hwrite⟩) fun _ _ => rfl

/-- What a file gives is written to the path that its name gives, or nothing changes. -/
lemma ends_visitFile (r : Renderer) (p q : Path) (n : String) (w : Workspace) :
    Ends (r.visitFile p q n) w
      (fun paths w' => ∃ t isTemplate content made, r.fileName n = .ok (t, isTemplate) ∧
        w.files.read (p.child n) = .ok content ∧ r.content? n content = some made ∧
        w.files.write (q.join (.ofString t)) made = .ok w'.files ∧
        paths = [q.join (.ofString t)])
      (fun _ w' => w'.files = w.files) := by
  unfold visitFile
  refine Ends.bind (ends_lift (fun x hname => ?_) fun _ _ => rfl)
  obtain ⟨t, isTemplate⟩ := x
  cases isTemplate with
  | true =>
      refine Ends.bind (ends_note ?_)
      refine Ends.bind ((ends_renderFile_any r _ _ _).mono ?_ fun _ _ hw' => hw')
      rintro _ w' ⟨content, template, text, hread, hdecode, htext, hwrite⟩
      refine ends_pure ⟨t, true, content, text.toByteArray, hname, hread, ?_, hwrite, rfl⟩
      simp [content?, hname, hdecode, htext, Except.toOption]
  | false =>
      refine Ends.bind (ends_note ?_)
      refine Ends.bind ((ends_copy_any _ _ _).mono ?_ fun _ _ hw' => hw')
      rintro _ w' ⟨content, hread, hwrite⟩
      refine ends_pure ⟨t, false, content, content, hname, hread, ?_, hwrite, rfl⟩
      simp [content?, hname]

/-- The ways in which the visit of an entry succeeds: it is passed over, or it is a directory that is
made again and whose entries are then visited, or what it gives is written. -/
inductive Visited (r : Renderer) (descend : Path → Path → Work (List Path)) (p q : Path)
    (n : String) (w : Workspace) : List Path → Workspace → Prop
  | ignored {w' : Workspace} : n ∈ r.conventions.ignoredNames → w'.files = w.files →
      Visited r descend p q n w [] w'
  | directory {t : String} {w₁ w' : Workspace} {paths : List Path} :
    n ∉ r.conventions.ignoredNames → w.files.isDirectory (p.child n) = .ok true →
      r.directoryName n = .ok t →
      w.files.makeDirectories true (q.join (.ofString t)) = (.ok (), w₁.files) →
      (descend (p.child n) (q.join (.ofString t))).run w₁ = .ok paths w' →
      Visited r descend p q n w paths w'
  | file {t : String} {isTemplate : Bool} {content made : ByteArray} {w' : Workspace} :
    n ∉ r.conventions.ignoredNames → r.fileName n = .ok (t, isTemplate) →
      w.files.read (p.child n) = .ok content → r.content? n content = some made →
      w.files.write (q.join (.ofString t)) made = .ok w'.files →
      Visited r descend p q n w [q.join (.ofString t)] w'

/-- A visit succeeds in one of these ways, or it has only expanded the files, if that is so of the
descent into a directory. -/
lemma ends_visit (hdescend : ∀ p q, OnlyAdds (descend p q)) (p q : Path) (n : String)
    (w : Workspace) :
    Ends (r.visit descend p q n) w (Visited r descend p q n w)
      fun _ w' => Expands w.files w'.files := by
  by_cases hignored : n ∈ r.conventions.ignoredNames
  · simp only [visit, if_pos hignored]
    exact Ends.bind (ends_note (ends_pure (.ignored hignored rfl)))
  simp only [visit, if_neg hignored]
  refine Ends.bind (ends_ask (fun isDir hdir => ?_) fun _ _ => .refl)
  cases isDir with
  | false =>
      simp only [Bool.false_eq_true, if_false]
      refine (ends_visitFile r p q n w).mono ?_ fun _ w' hw' => ?_
      · rintro paths w' ⟨t, isTemplate, content, made, hname, hread, hmade, hwrite, rfl⟩
        exact .file hignored hname hread hmade hwrite
      · rw [hw']
        exact .refl
  | true =>
      simp only [if_true]
      refine Ends.bind (ends_lift (fun t hname => ?_) fun _ _ => .refl)
      refine Ends.bind (ends_makeDirectories_ample (fun fs' hmake => ?_) fun f fs' hmake => ?_)
      · have hmade := (adds_of_makeDirectories hmake).expands
        refine ((ends_run _ _).and (hdescend _ _ _)).mono (fun paths w' h => ?_) fun _ _ h => ?_
        · exact .directory hignored hdir hname hmake h.1
        · exact hmade.trans h.2
      · exact (adds_of_makeDirectories hmake).expands

/-- A visit adds what it answers with if the descent does. -/
lemma Visited.adds (hdescend : ∀ p q, OnlyAdds (descend p q))
    (h : Visited r descend p q n w paths w') : Adds w.files paths w'.files := by
  cases h with
  | ignored _ hfiles =>
      rw [hfiles]
      exact .refl _
  | directory _ _ _ hmake hrun =>
      have hmade := adds_of_makeDirectories hmake
      exact hmade.trans ((hdescend _ _ _).of_run_ok hrun)
  | file _ _ _ _ hwrite => exact adds_of_write hwrite

/-! ## Renderings -/

/-- Visits in a row add what they answer with if each of them does. -/
lemma onlyAdds_visitAll {visit : String → Work (List Path)} (hvisit : ∀ n, OnlyAdds (visit n)) :
    OnlyAdds (visitAll visit names) := by
  induction names with
  | nil => exact fun w => ends_pure (.refl _)
  | cons n ns ih =>
      intro w
      refine Ends.bind ((hvisit n w).mono (fun first w₁ hfirst => ?_) fun _ _ h => h)
      refine Ends.bind ((ih w₁).mono (fun rest w₂ hrest => ?_) fun _ _ h => ?_)
      · exact ends_pure (hfirst.trans hrest)
      · exact hfirst.expands.trans h

/-- Rendering a directory adds the files at the paths that it answers with. -/
theorem onlyAdds_renderDirectory (r : Renderer) (depth : Nat) (p q : Path) :
    OnlyAdds (r.renderDirectory depth p q) := by
  induction depth generalizing p q with
  | zero => exact fun w => ends_throw .refl
  | succ depth ih =>
      intro w
      refine Ends.bind (ends_ask (fun names _ => ?_) fun _ _ => .refl)
      refine onlyAdds_visitAll (fun n w => ?_) w
      exact (ends_visit ih p q n w).mono (fun _ _ h => h.adds ih) fun _ _ h => h

/-- Rendering a tree adds the files at the paths that it answers with. -/
theorem onlyAdds_renderTree (r : Renderer) (root output : Path) :
    OnlyAdds (r.renderTree root output) := by
  intro w
  refine Ends.bind (ends_ask (fun isDir _ => ?_) fun _ _ => .refl)
  cases isDir with
  | false => exact Ends.bind (ends_throw .refl)
  | true =>
      refine Ends.bind (ends_makeDirectories_ample (fun fs' hmake => ?_) fun f fs' hmake => ?_)
      · have hmade := adds_of_makeDirectories hmake
        exact (onlyAdds_renderDirectory r pathLimit root output _).mono
          (fun _ _ h => hmade.trans h) fun _ _ h => hmade.expands.trans h
      · exact (adds_of_makeDirectories hmake).expands

end Renderer

end Scaffold.Tree
