import Mathlib.Tactic.Lemma
import Scaffold.Proofs.FileSystem.Rooted
import Scaffold.Proofs.Tree.Confinement
import Scaffold.Proofs.Tree.Image
import Scaffold.Proofs.Tree.Lookup

/-!
# Trees in which everything renders

A rendering of a tree in which every name and every template renders may still fail, but only because
of the files: a path is too long, or something is in the way.

* `Problem.OfFiles`: a problem with the files.
* `Faultless`: a tree in which everything renders. `faultless_of_renders` says that this can be seen
  from the forest that the tree is.
* `Fresh`: an output in which there is nothing and which is apart from the tree. An empty directory is
  one by `fresh_of_find`, a missing one by `fresh_of_makeDirectories`.
* `spares_renderDirectory`: the entries of a faultless tree are rendered, or there is a problem with the
  files.
* `spares_renderTemplate`: the same of a whole template that is looked up and rendered into a fresh
  output. `yields_renderTemplate` says when it is rendered.
-/

namespace Scaffold.Tree

open FileSystem Relation

/-! ## Problems with the files -/

/-- A problem with the files: it comes neither from a template nor from a name in a template tree. -/
def Problem.OfFiles (problem : Problem) : Prop :=
  ∀ e, problem ≠ .template e

/-- What any activity reports is a problem of the files. -/
lemma Problem.ofFiles_ofFailure (activity : Activity) (subject : Path) (f : Failure) :
    (Problem.ofFailure activity subject f).OfFiles := by
  intro e
  cases f <;> simp [Problem.ofFailure]

/-- So is what copying reports. -/
lemma Problem.ofFiles_ofCopyFailure (source target : Path) (f : Failure) :
    (Problem.ofCopyFailure source target f).OfFiles := by
  intro e
  cases f <;> simp [Problem.ofCopyFailure, Problem.ofFailure]

/-- So is a question that the system does not answer. -/
lemma Problem.ofFiles_unanswered (f : Failure) : (Problem.unanswered f).OfFiles :=
  fun e => by simp

/-- So is an activity that fails for any cause. -/
lemma Problem.ofFiles_failed (activity : Activity) (subject : Path) (cause : Cause) :
    (Problem.failed activity subject cause).OfFiles :=
  fun e => by simp

/-- Work that succeeds, or ends with a problem with the files. -/
def Work.Spares {α : Type} (x : Work α) (w : Workspace) : Prop :=
  Ends x w (fun _ _ => True) fun problem _ => problem.OfFiles

namespace Renderer

variable {r : Renderer} {fs₁ fs : FileSystem} {src out l m : Location} {p q root output : Path}
  {n t : String} {content : ByteArray} {w : Workspace}
  {descend : Path → Path → Work (List Path)}

/-! ## Files -/

/-- Copying raises problems of the files only. -/
lemma spares_copy (source target : Path) : (Work.copy source target).Spares w := by
  have hcopy := Problem.ofFiles_ofFailure .copyFile source
  refine Ends.bind (Work.ends_ask (fun same _ => ?_) fun f _ => hcopy f)
  cases same with
  | true => exact Ends.bind (ends_throw (Problem.ofFiles_failed _ _ _))
  | false =>
      simp only [Bool.false_eq_true, if_false]
      refine Ends.bind (Work.ends_ask (fun content _ => ?_) fun f _ => hcopy f)
      exact Work.ends_attempt (fun _ _ => trivial)
        fun f _ _ => Problem.ofFiles_ofCopyFailure source target f

/-- A template file is rendered, or there is a problem with the files, if the template renders. -/
lemma spares_renderFile (hsource : w.files.find p = .ok (l, .file content))
    (hname : r.fileName n = .ok (t, true)) (hcontent : (r.content? n content).isSome) :
    (r.renderFile p q).Spares w := by
  unfold renderFile Work.readTemplate
  refine Ends.bind (Ends.bind (Work.ends_ask (fun content' hread => ?_) fun f _ =>
    Problem.ofFiles_ofFailure _ _ f))
  obtain rfl := Except.ok.inj ((read_of_find hsource).symm.trans hread)
  refine Work.ends_lift (fun template hdecode => ?_) fun _ _ => Problem.ofFiles_failed _ _ _
  refine Ends.bind (Work.ends_lift (fun text _ => ?_) fun e he => ?_)
  · unfold Work.writeText
    refine Ends.bind (Work.ends_lift (fun bytes _ => ?_) fun f _ => Problem.ofFiles_unanswered f)
    exact Work.ends_attempt (fun _ _ => trivial) fun f _ _ => Problem.ofFiles_ofFailure _ _ f
  · simp [content?, hname, hdecode, he, Except.toOption] at hcontent

/-- A file is rendered or copied, or there is a problem with the files. -/
lemma spares_visitFile (hsource : w.files.find (p.child n) = .ok (l, .file content))
    (hname : (r.nameOf? .file n).isSome) (hcontent : (r.content? n content).isSome) :
    (r.visitFile p q n).Spares w := by
  simp only [visitFile]
  refine Ends.bind (Work.ends_lift (fun x hfile => ?_) fun e he => ?_)
  · obtain ⟨t, isTemplate⟩ := x
    cases isTemplate with
    | true =>
        refine Ends.bind (Work.ends_note (Ends.bind ?_))
        refine Ends.mono (spares_renderFile (l := l) ?_ hfile hcontent)
          (fun _ _ _ => ends_pure trivial) fun _ _ hproblem => hproblem
        exact hsource
    | false =>
        refine Ends.bind (Work.ends_note (Ends.bind ?_))
        exact Ends.mono (spares_copy _ _) (fun _ _ _ => ends_pure trivial)
          fun _ _ hproblem => hproblem
  · rw [nameOf?, he] at hname
    cases hname

/-! ## Trees -/

/-- In a tree of directories and files, every name and every template renders, but for entries that are
passed over. -/
structure Faultless (r : Renderer) (fs : FileSystem) (src : Location) : Prop where
  name : ∀ l n e, src <+: l → fs.get? (l ++ [n]) = some e → n ∉ r.conventions.ignoredNames →
    (r.nameOf? e.kind n).isSome
  content : ∀ l n content, src <+: l → fs.get? (l ++ [n]) = some (.file content) →
    n ∉ r.conventions.ignoredNames → (r.content? n content).isSome

section

variable (hplain : r.PlainTree fs₁ src out)
  (hlinks : ∀ l n target, out <+: l → fs₁.get? (l ++ [n]) ≠ some (.link target))
  (houtside : ∀ rest, ¬ src <+: out ++ rest) (hfaultless : r.Faultless fs₁ src)

include houtside in
/-- The tree stays as it is while entries are laid down apart from it. -/
lemma get?_source_of_lays (hlays : ReflTransGen (r.Lays fs₁ src out) fs₁ fs) (hl : src <+: l) :
    fs.get? l = fs₁.get? l := by
  refine get?_of_lays hlays ?_
  rintro rest - rfl
  exact houtside rest hl

include hplain hlinks houtside hfaultless

/-- The entry of a faultless tree is rendered, or there is a problem with the files. -/
lemma spares_visit (hinside : r.Inside fs₁ src out w.files p q l m)
    (hsome : (w.files.get? (l ++ [n])).isSome)
    (hdescend : ∀ w' t, r.Inside fs₁ src out w'.files (p.child n) (q.child t) (l ++ [n])
      (m ++ [t]) → (descend (p.child n) (q.child t)).Spares w') :
    (r.visit descend p q n).Spares w := by
  obtain ⟨e, hget⟩ := Option.isSome_iff_exists.mp hsome
  obtain ⟨hname, hkind, hmeets⟩ := hplain.of_lays hinside.laid hinside.source_below hget
  have hget₁ : fs₁.get? (l ++ [n]) = some e := by
    rw [← hget]
    exact (get?_source_of_lays houtside hinside.laid
      (hinside.source_below.trans (List.prefix_append l [n]))).symm
  by_cases hignored : n ∈ r.conventions.ignoredNames
  · simp only [visit, if_pos hignored]
    exact Ends.bind (Work.ends_note (ends_pure trivial))
  simp only [visit, if_neg hignored]
  refine Ends.bind (Work.ends_ask (fun isDir hdir => ?_) fun f _ => Problem.ofFiles_unanswered f)
  obtain ⟨hsource, rfl⟩ := find_child_of_isDirectory hinside.source hname hget hkind hdir
  have hgives := hfaultless.name l n e hinside.source_below hget₁ hignored
  cases e with
  | link target => exact absurd rfl hkind
  | file content =>
      simp only [reduceCtorEq, decide_false, Bool.false_eq_true, if_false]
      exact spares_visitFile hsource hgives
        (hfaultless.content l n content hinside.source_below hget₁ hignored)
  | directory =>
      simp only [decide_true, if_true]
      refine Ends.bind (Work.ends_lift (fun t hdirectory => ?_) fun e he => ?_)
      · have hgives' : r.nameOf? .directory n = some t := by
          simp only [nameOf?, hdirectory]
          rfl
        have hname' := hplain.plain _ n t hmeets hgives'
        have hlink := get?_ne_link_of_lays hinside.laid (l := m ++ [t])
          fun target => hlinks m t target hinside.target_below
        have hcases := makeDirectories_child_cases hinside.target hname' hlink
        rw [Path.join_ofString _ hname']
        refine Ends.bind (Work.ends_makeDirectories_ample (fun fs' hmake => ?_) fun f _ _ =>
          Problem.ofFiles_ofFailure _ _ f)
        rcases hcases with ⟨f, hf⟩ | ⟨hok, htakes, htargetFits⟩
        · rw [hf] at hmake
          cases (Prod.mk.inj hmake).1
        rw [hok] at hmake
        obtain rfl := (Prod.mk.inj hmake).2
        exact hdescend _ t (hinside.enter hmeets hgives' hname' hsource htargetFits htakes).2
      · rw [Entry.kind, nameOf?, he] at hgives
        cases hgives

/-- The entries of a faultless tree are rendered, or there is a problem with the files. -/
lemma spares_renderDirectory (depth : Nat) (hinside : r.Inside fs₁ src out w.files p q l m) :
    (r.renderDirectory depth p q).Spares w := by
  -- that nothing but entries below the output is laid down carries the induction along the entries
  induction depth generalizing w p q l m with
  | zero => exact ends_throw (Problem.ofFiles_failed _ _ _)
  | succ depth ih =>
      refine ends_renderDirectory_of_find hinside.source ?_
      have hvisit : ∀ n ∈ w.files.children l, ∀ w',
          ReflTransGen (r.Lays fs₁ src out) w.files w'.files →
          Ends (r.visit (r.renderDirectory depth) p q n) w'
            (fun _ w'' => ReflTransGen (r.Lays fs₁ src out) w.files w''.files)
            fun problem _ => problem.OfFiles := by
        intro n hn w' hlays
        have hsome := isSome_of_lays hlays (mem_children.mp hn)
        have hinside' := hinside.of_lays hlays
        have hlaid : r.OnlyLays fs₁ src out (r.visit (r.renderDirectory depth) p q n) w' :=
          onlyLays_visit hplain hlinks hinside' hsome fun w'' t henter =>
            onlyLays_renderDirectory hplain hlinks depth henter
        have hspares := spares_visit hplain hlinks houtside hfaultless hinside' hsome
          fun w'' t henter => ih henter
        exact (hlaid.and hspares).mono (fun _ _ h => hlays.trans h.1) fun _ _ h => h.2
      exact Ends.mono (ends_visitAll_of_invariant hvisit .refl) (fun _ _ _ => trivial)
        fun _ _ hproblem => hproblem

end

/-! ## Trees that are known -/

/-- Every entry below a directory is among the visits of the forest that the directory holds, unless
some are passed over. -/
lemma exists_visit_of_get? {forest : Forest} {above ms : List String} {m : String} {e : Entry}
    (hrooted : fs.Rooted) (hholds : fs.HoldsEntries l forest) (hm : m ∈ forest.names)
    (hget : fs.get? (l ++ m :: ms) = some e) :
    ∃ v ∈ forest.visits [] above, v.above ++ [v.name] = above ++ m :: ms ∧ v.entry = e ∧
      IsPlainName v.name := by
  induction forest generalizing l above m ms with
  | nil => cases hm
  | file name content rest ih =>
      obtain ⟨hname, hfile, hrest⟩ := hholds
      rw [Forest.visits, if_neg List.not_mem_nil]
      rcases List.mem_cons.mp hm with rfl | hm
      · -- nothing lies below a file
        rw [List.append_cons] at hget
        obtain rfl : ms = [] := by
          refine Decidable.byContradiction fun hms => ?_
          have hdir := hrooted.get?_of_append hms (by rw [hget]; rfl)
          rw [hfile] at hdir
          cases hdir
        rw [List.append_nil, hfile, Option.some.injEq] at hget
        exact ⟨_, List.mem_cons_self, rfl, hget, hname⟩
      · obtain ⟨v, hv, hlocation⟩ := ih hrest hm hget
        exact ⟨v, List.mem_cons_of_mem _ hv, hlocation⟩
  | directory name entries rest ihEntries ihRest =>
      obtain ⟨hname, hdir, hchildren, hentries, hrest⟩ := hholds
      rw [Forest.visits, if_neg List.not_mem_nil]
      rcases List.mem_cons.mp hm with rfl | hm
      · rw [List.append_cons] at hget
        cases ms with
        | nil =>
            rw [List.append_nil, hdir, Option.some.injEq] at hget
            exact ⟨_, List.mem_cons_self, rfl, hget, hname⟩
        | cons k ks =>
            have hk : k ∈ entries.names := by
              rw [← hchildren]
              exact hrooted.mem_children_of_get? hget
            obtain ⟨v, hv, hlocation, hentry⟩ := ihEntries hentries hk hget
            refine ⟨v, List.mem_cons_of_mem _ (List.mem_append_left _ hv), ?_, hentry⟩
            rw [hlocation, List.append_assoc, List.singleton_append]
      · obtain ⟨v, hv, hlocation⟩ := ihRest hrest hm hget
        exact ⟨v, List.mem_cons_of_mem _ (List.mem_append_right _ hv), hlocation⟩

/-- Every entry of a tree is among the visits of the forest that the tree is, unless some are passed
over. -/
lemma exists_visit_of_holds {forest : Forest} {e : Entry} (hrooted : fs.Rooted)
    (hholds : fs.Holds src forest) (hl : src <+: l) (hget : fs.get? (l ++ [n]) = some e) :
    ∃ v ∈ forest.visits [] [], v.name = n ∧ v.entry = e ∧ IsPlainName v.name := by
  obtain ⟨ms, rfl⟩ := hl
  obtain ⟨k, ks, hrest⟩ : ∃ k ks, ms ++ [n] = k :: ks := List.exists_cons_of_ne_nil (by simp)
  rw [List.append_assoc, hrest] at hget
  have hk : k ∈ forest.names := by
    rw [← hholds.names]
    exact hrooted.mem_children_of_get? hget
  obtain ⟨v, hv, hlocation, hentry, hname⟩ :=
    exists_visit_of_get? hrooted hholds.entries hk hget
  rw [List.nil_append, ← hrest] at hlocation
  exact ⟨v, hv, List.singleton_inj.mp (List.append_inj' hlocation rfl).2, hentry, hname⟩

/-- The name that an entry is made with is that of its visit. -/
lemma nameOf?_kind (r : Renderer) (v : Visit) : r.nameOf? v.kind v.name = r.targetName? v := by
  unfold nameOf? Visit.kind targetName?
  cases v.content with
  | none => rfl
  | some content => rfl

/-- A visit with a place has a name there. -/
lemma exists_targetName?_of_place? {v : Visit} {place : Location} (h : r.place? v = some place) :
    ∃ t, r.targetName? v = some t ∧ t ∈ place := by
  simp only [place?, Option.bind_eq_bind, Option.bind_eq_some_iff, Option.pure_def,
    Option.some.injEq] at h
  obtain ⟨above, -, t, ht, rfl⟩ := h
  exact ⟨t, ht, List.mem_append_right above List.mem_cons_self⟩

/-- The names and the templates of a forest render, and the names to plain ones. -/
def Renders (r : Renderer) (forest : Forest) : Prop :=
  ∀ v ∈ forest.visits [] [], (∃ t, r.targetName? v = some t ∧ IsPlainName t) ∧ (r.product? v).isSome

variable {forest : Forest} (hrooted : fs.Rooted) (hholds : fs.Holds src forest)
  (hrenders : r.Renders forest)

include hrooted hholds hrenders

/-- A tree of which every name renders to a plain one has plain names. -/
lemma plainNames_of_renders : r.PlainNames fs src where
  tree := by
    intro l n e hl hget
    obtain ⟨v, -, rfl, rfl, hname⟩ := exists_visit_of_holds hrooted hholds hl hget
    refine ⟨hname, ?_⟩
    unfold Visit.entry
    cases v.content with
    | none => exact Entry.directory_kind_ne_link
    | some content => exact Entry.file_kind_ne_link content
  plain := by
    intro l n e t hl hget hgives
    obtain ⟨v, hv, rfl, rfl, -⟩ := exists_visit_of_holds hrooted hholds hl hget
    obtain ⟨⟨t', ht', hplain⟩, -⟩ := hrenders v hv
    rw [Visit.kind_entry, nameOf?_kind, ht', Option.some.injEq] at hgives
    rwa [← hgives]

/-- A tree of which every name and file renders raises no template errors. -/
lemma faultless_of_renders : r.Faultless fs src where
  name := by
    intro l n e hl hget _
    obtain ⟨v, hv, rfl, rfl, -⟩ := exists_visit_of_holds hrooted hholds hl hget
    obtain ⟨⟨t, ht, -⟩, -⟩ := hrenders v hv
    rw [Visit.kind_entry, nameOf?_kind, ht]
    rfl
  content := by
    intro l n content hl hget _
    obtain ⟨v, hv, rfl, hentry, -⟩ := exists_visit_of_holds hrooted hholds hl hget
    have hproduct := (hrenders v hv).2
    unfold Visit.entry at hentry
    unfold product? at hproduct
    cases hv : v.content with
    | none =>
        rw [hv] at hentry
        cases hentry
    | some content' =>
        rw [hv] at hentry hproduct
        obtain rfl := Entry.file.inj hentry
        simpa using hproduct

end Renderer

/-! ## Fresh outputs -/

/-- An output for a tree is fresh. Once it is there, and it may have to be made first, it is an empty
directory outside of the tree, and the tree is as it was. -/
structure Fresh (fs : FileSystem) (src : Location) (output : Path) : Prop where
  empty : ∀ fs₁ out, fs.makeDirectories true output = (.ok (), fs₁) →
    fs₁.find output = .ok (out, .directory) → fs₁.children out = []
  outside : ∀ fs₁ out, fs.makeDirectories true output = (.ok (), fs₁) →
    fs₁.find output = .ok (out, .directory) → ¬ src <+: out
  kept : ∀ fs₁, fs.makeDirectories true output = (.ok (), fs₁) →
    ∀ l, src <+: l → fs₁.get? l = fs.get? l

variable {fs fs₁ : FileSystem} {src out : Location} {root output : Path}

/-- It suffices to look at what is there when the output has been made. -/
lemma fresh_of_made (hmade : fs.makeDirectories true output = (.ok (), fs₁))
    (hfind : fs₁.find output = .ok (out, .directory)) (hempty : fs₁.children out = [])
    (houtside : ¬ src <+: out) (hkept : ∀ l, src <+: l → fs₁.get? l = fs.get? l) :
    Fresh fs src output := by
  have hsame : ∀ fs₂, fs.makeDirectories true output = (.ok (), fs₂) → fs₂ = fs₁ := by
    intro fs₂ h
    rw [hmade] at h
    exact (Prod.mk.inj h).2.symm
  refine ⟨fun fs₂ out' h hfind' => ?_, fun fs₂ out' h hfind' => ?_, fun fs₂ h l hl => ?_⟩
  · obtain rfl := hsame fs₂ h
    rwa [← eq_of_find hfind hfind']
  · obtain rfl := hsame fs₂ h
    rwa [← eq_of_find hfind hfind']
  · rw [hsame fs₂ h, hkept l hl]

/-- An empty directory outside of a tree is fresh. -/
lemma fresh_of_find (hfind : fs.find output = .ok (out, .directory)) (hempty : fs.children out = [])
    (houtside : ¬ src <+: out) : Fresh fs src output :=
  fresh_of_made (makeDirectories_of_find hfind) hfind hempty houtside fun _ _ => rfl

/-- An output that is missing and can be made, apart from a tree, is fresh. -/
lemma fresh_of_makeDirectories (hrooted : fs.Rooted)
    (hmade : fs.makeDirectories false output = (.ok (), fs₁))
    (hfind : fs₁.find output = .ok (out, .directory)) (houtside : ¬ src <+: out)
    (hkept : ∀ l, src <+: l → fs₁.get? l = fs.get? l) : Fresh fs src output := by
  obtain ⟨l, hl, -, hempty⟩ := hrooted.get?_append_of_makeDirectories hmade
  obtain rfl := eq_of_find hl hfind
  refine fresh_of_made (makeDirectories_true_of_false hmade) hfind ?_ houtside hkept
  refine List.eq_nil_iff_forall_not_mem.mpr fun n hn => ?_
  rw [mem_children, hempty [n] (by simp)] at hn
  cases hn

/-- A tree that is a forest, and apart from it a directory in which there is nothing. -/
structure Apart (fs : FileSystem) (root : Path) (src out : Location) (forest : Forest) : Prop where
  rooted : fs.Rooted
  source : fs.find root = .ok (src, .directory)
  holds : fs.Holds src forest
  empty : ∀ rest, rest ≠ [] → fs.get? (out ++ rest) = none
  inside : ¬ src <+: out
  around : ¬ out <+: src

variable {forest : Forest}

/-- A fresh output is apart from the tree once it is there. -/
lemma Fresh.apart (h : Fresh fs src output) (hrooted : fs.Rooted)
    (hroot : fs.find root = .ok (src, .directory)) (hholds : fs.Holds src forest)
    (hmade : fs.makeDirectories true output = (.ok (), fs₁))
    (hout : fs₁.find output = .ok (out, .directory)) : Apart fs₁ root src out forest := by
  obtain ⟨made, hprepares⟩ := makeDirectories_prepares hmade
  have hmakes := makes_of_makeDirectories hmade
  have hempty : ∀ rest, rest ≠ [] → fs₁.get? (out ++ rest) = none := fun rest hrest =>
    (hrooted.of_makes hmakes).get?_append_of_listing
      (children_eq_nil_iff.mp (h.empty fs₁ out hmade hout)) hrest
  refine ⟨hrooted.of_makes hmakes, find_of_grows hprepares.grows hroot,
    Renderer.holds_of_makeDirectories hmade (h.kept fs₁ hmade) hholds, hempty,
    h.outside fs₁ out hmade hout, ?_⟩
  rintro ⟨rest, rfl⟩
  have hrest : rest ≠ [] := by
    rintro rfl
    exact h.outside fs₁ out hmade hout (by simp)
  have hnone := hempty rest hrest
  rw [keeps_of_makes hmakes _ _ (hrooted.get?_of_find hroot)] at hnone
  cases hnone

/-! ## Whole templates -/

variable {r : Renderer} {w : Workspace} {name : String}

/-- A tree that renders is rendered into a fresh output, or there is a problem with the files. -/
theorem spares_renderTree (hrooted : w.files.Rooted)
    (hroot : w.files.find root = .ok (src, .directory)) (hholds : w.files.Holds src forest)
    (hfresh : Fresh w.files src output) (hrenders : r.Renders forest) :
    (r.renderTree root output).Spares w := by
  refine Ends.bind (Work.ends_ask (fun isDir hdir => ?_) fun f _ => Problem.ofFiles_unanswered f)
  obtain rfl : true = isDir := Except.ok.inj ((isDirectory_of_find hroot).symm.trans hdir)
  simp only [if_true]
  refine Ends.bind (Work.ends_makeDirectories_ample (fun fs₁ hmade => ?_) fun f _ _ =>
    Problem.ofFiles_ofFailure _ _ f)
  obtain ⟨out, hout⟩ := find_of_makeDirectories hmade
  have hapart := hfresh.apart hrooted hroot hholds hmade hout
  have hplain := (Renderer.plainNames_of_renders hapart.rooted hapart.holds hrenders).plainTree
    hapart.inside hapart.around
  have hlinks : ∀ l n target, out <+: l → fs₁.get? (l ++ [n]) ≠ some (.link target) := by
    rintro _ n target ⟨rest, rfl⟩ hget
    rw [List.append_assoc, hapart.empty _ (by simp)] at hget
    cases hget
  exact Renderer.spares_renderDirectory hplain hlinks
    (fun rest => Renderer.not_prefix_of_apart hapart.inside hapart.around)
    (Renderer.faultless_of_renders hapart.rooted hapart.holds hrenders) pathLimit
    ⟨.refl, hapart.source, hout, List.prefix_refl src, List.prefix_refl out⟩

/-- A template that renders is rendered into a fresh output, or there is a problem with the files. -/
theorem spares_renderTemplate (hrooted : w.files.Rooted)
    (hroot : w.files.find (Catalog.pathOf root name) = .ok (src, .directory))
    (hholds : w.files.Holds src forest) (hfresh : Fresh w.files src output)
    (hrenders : r.Renders forest) : (renderTemplate r root name output).Spares w := by
  refine ends_renderTemplate (fun src' _ => ?_) (fun _ e => by simp)
    fun f _ => Problem.ofFiles_unanswered f
  exact spares_renderTree hrooted hroot hholds hfresh hrenders

/-- A template that is there is found. -/
lemma yields_find (hroot : fs.find (Catalog.pathOf root name) = .ok (src, .directory)) :
    (Catalog.find root name).Yields fs (Catalog.pathOf root name) fs := by
  unfold Catalog.find
  generalize Catalog.pathOf root name = path at hroot
  have hdir : fs.isDirectory path = .ok true := by
    rw [isDirectory_of_find hroot]
    rfl
  refine (Work.yields_ask hdir).bind ?_
  simp only [if_true]
  exact Work.yields_pure path fs

/-- A template is rendered into a fresh output if every visit suits and no two have one place. Then
there is what the visits leave, and everything else is as it was when the output had been made. -/
theorem yields_renderTemplate (hrooted : fs.Rooted)
    (hroot : fs.find (Catalog.pathOf root name) = .ok (src, .directory))
    (hholds : fs.Holds src forest) (hfresh : Fresh fs src output)
    (hmade : fs.makeDirectories true output = (.ok (), fs₁))
    (hout : fs₁.find output = .ok (out, .directory))
    (hsuits : ∀ v ∈ r.visits forest, ∃ place e,
      r.Suits (Catalog.pathOf root name) output v place e)
    (hdistinct : ∀ v ∈ r.visits forest, ∀ v' ∈ r.visits forest,
      r.place? v = r.place? v' → v = v') :
    ∃ fs', (renderTemplate r root name output).Yields fs (r.written output (r.visits forest)) fs' ∧
      (∀ v ∈ r.visits forest, ∀ place e, r.place? v = some place → r.product? v = some e →
        fs'.get? (out ++ place) = some e) ∧
      ∀ l, (∀ v ∈ r.visits forest, ∀ place, r.place? v = some place → l ≠ out ++ place) →
        fs'.get? l = fs₁.get? l := by
  have hapart := hfresh.apart hrooted hroot hholds hmade hout
  have hdistinct' : ∀ v ∈ r.visits forest, ∀ v' ∈ r.visits forest, r.place? v = r.place? v' →
      v = v' ∨ v.kind = .directory ∧ v'.kind = .directory :=
    fun v hv v' hv' h => .inl (hdistinct v hv v' hv' h)
  have htakes : fs₁.Takes (r.deposits out (r.visits forest)) := by
    refine Renderer.takes_deposits hdistinct' fun v _ place e hplace hget => ?_
    rw [hapart.empty place (Renderer.place?_ne_nil hplace)] at hget
    cases hget
  have houtside : ∀ x ∈ r.deposits out (r.visits forest), ¬ src <+: x.1 := by
    intro x hx
    obtain ⟨v, -, place, -, -, hx⟩ := Renderer.exists_visit_of_mem_deposits hx
    rw [hx]
    exact Renderer.not_prefix_of_apart hapart.inside hapart.around
  have hready : Renderer.Ready fs₁ (Catalog.pathOf root name) output src out
      (r.deposits out (r.visits forest)) [] [] forest :=
    ⟨by simpa using hapart.source, by simpa using hout, by simpa using hapart.holds.entries, htakes⟩
  have hvisits : ∀ v ∈ r.visits forest, ∃ place e,
      r.Suits (Catalog.pathOf root name) output v place e ∧
        (out ++ place, e) ∈ r.deposits out (r.visits forest) := by
    intro v hv
    obtain ⟨place, e, hv'⟩ := hsuits v hv
    exact ⟨place, e, hv', Renderer.mem_deposits hv hv'.place_eq hv'.product_eq⟩
  have hrender := Renderer.yields_renderDirectory_root houtside hapart.holds hready hvisits
  have hall : (renderTemplate r root name output).Yields fs (r.written output (r.visits forest))
      (fs₁.overlay (r.deposits out (r.visits forest))) := by
    unfold renderTemplate
    refine (yields_find hroot).bind ((Work.yields_note _ fs).bind ?_)
    exact Renderer.yields_renderTree hroot hmade hrender
  refine ⟨_, hall, ?_, ?_⟩
  · intro v hv place e hplace he
    have hlocation : out ++ place ≠ [] := fun hnil =>
      Renderer.place?_ne_nil hplace (List.append_eq_nil_iff.mp hnil).2
    exact get?_overlay_of_mem hlocation (Renderer.mem_deposits hv hplace he)
      (Renderer.product_unique hdistinct' hv hplace he)
  · intro l hl
    refine get?_overlay_of_notMem fun x hx heq => ?_
    obtain ⟨v, hv, place, hplace, -, hx⟩ := Renderer.exists_visit_of_mem_deposits hx
    exact hl v hv place hplace (heq.symm.trans hx)

end Scaffold.Tree
