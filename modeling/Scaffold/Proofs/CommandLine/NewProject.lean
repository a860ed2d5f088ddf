import Mathlib.Data.List.Nodup
import Mathlib.Tactic.Lemma
import Scaffold.Proofs.CommandLine.Creating
import Scaffold.Proofs.Tree.FailFast

/-!
# What a successful run leaves

* `HoldsProject`: a directory holds the image of a template and what was kept, and nothing else.
* `create_leaves_new_project`: this is what a successful run leaves, if the path of the project still
  leads to its directory once that has been prepared.
* `not_holdsProject_of_real_directory`: it does not suffice that the path leads to a directory before
  the run.
* `not_holdsProject_of_earlier_template`: nor does the project come from the template as it is before
  the run, if directories on the way to the project are made in it. `holds_of_prepared` says that it is
  the same otherwise.
-/

namespace Scaffold.CommandLine

open Scaffold.Tree FileSystem

variable {around : Surroundings} {settings s : Settings} {identifier : String}
  {session session' : Session} {r : Renderer} {fs fs' : FileSystem} {directory : Path}
  {src out : Location} {forest : Forest}

/-- A directory holds the image of a template and what was kept of its earlier entries, and nothing
else. Outside it nothing has changed but that directories on the way to it have been made. -/
structure HoldsProject (r : Renderer) (forest : Forest) (out : Location) (directory : Path)
    (fs fs' : FileSystem) : Prop where
  find : fs'.find directory = .ok (out, .directory)
  image : ∀ v ∈ r.visits forest, ∃ place e, r.place? v = some place ∧ r.product? v = some e ∧
    fs'.get? (out ++ place) = some e
  kept : ∀ n rest, n ∈ keptNames → fs'.get? (out ++ n :: rest) = fs.get? (out ++ n :: rest)
  nothing_else : ∀ n rest e, n ∉ keptNames → fs'.get? (out ++ n :: rest) = some e →
    ∃ v ∈ r.visits forest, r.place? v = some (n :: rest)
  outside : ∀ l, (∀ n rest, l ≠ out ++ n :: rest) → fs'.get? l = fs.get? l ∨
    fs.get? l = none ∧ fs'.get? l = some .directory ∧
      ∃ q, Passes directory q ∧ fs'.find q = .ok (l, .directory)

/-- The visits of a template that make a project: every name that renders is plain, two visits with
one place are the same or both of directories, and none has its place where something is kept. -/
structure MakesProject (r : Renderer) (forest : Forest) : Prop where
  plain : ∀ v ∈ r.visits forest, ∀ t, r.targetName? v = some t → IsPlainName t
  distinct : ∀ v ∈ r.visits forest, ∀ v' ∈ r.visits forest, r.place? v = r.place? v' →
    v = v' ∨ v.kind = .directory ∧ v'.kind = .directory
  not_kept : ∀ v ∈ r.visits forest, ∀ n rest, r.place? v = some (n :: rest) → n ∉ keptNames

/-! ## The template -/

/-- A template that lies neither around the directory of a project nor in it is the same when that has
been prepared, unless directories on the way are made in the template. -/
lemma holds_of_prepared (hprepared : Prepared fs directory fs')
    (hout : fs'.find directory = .ok (out, .directory)) (hinside : ¬ src <+: out)
    (haround : ¬ out <+: src) (hnone : ∀ l, src <+: l → fs.get? l = none → fs'.get? l = none)
    (hholds : fs.Holds src forest) : fs'.Holds src forest := by
  refine holds_of_sameBelow ?_ hholds
  cases hprepared with
  | @emptied d hfind =>
      obtain rfl := eq_of_find_clear hfind hout
      have houtside : ∀ l, src <+: l → ∀ n rest, l ≠ d ++ n :: rest := by
        rintro _ hl n rest rfl
        exact Renderer.not_prefix_of_apart hinside haround hl
      exact ⟨fun l hl => get?_clear_outside (houtside l hl), fun l hl =>
        children_clear fun n rest m =>
          houtside (l ++ [m]) (hl.trans (List.prefix_append l [m])) n rest⟩
  | made hnot hmake =>
      obtain ⟨made, hprepares⟩ := makeDirectories_prepares hmake
      rw [hprepares.files]
      refine sameBelow_overlay fun x hx hsrc => ?_
      obtain ⟨l, hl, rfl⟩ := List.mem_map.mp hx
      have hgone := hnone l hsrc (hprepares.new l hl)
      rw [hprepares.get?_of_mem hl] at hgone
      cases hgone

/-! ## The directory of the project -/

/-- Nothing is laid down where something is kept. -/
lemma MakesProject.get?_overlay_of_kept (h : MakesProject r forest) {n : String}
    {rest : List String} (hn : n ∈ keptNames) :
    (fs.overlay (r.deposits out (r.visits forest))).get? (out ++ n :: rest) =
      fs.get? (out ++ n :: rest) := by
  refine get?_overlay_of_notMem fun x hx heq => ?_
  obtain ⟨v, hv, place, hplace, -, hlocation⟩ := Renderer.exists_visit_of_mem_deposits hx
  obtain rfl : place = n :: rest := List.append_cancel_left (hlocation.symm.trans heq)
  exact h.not_kept v hv n rest hplace hn

/-- What is laid down lies below the directory of the project. -/
lemma get?_overlay_of_outside {vs : List Visit} {l : Location}
    (hl : ∀ n rest, l ≠ out ++ n :: rest) :
    (fs.overlay (r.deposits out vs)).get? l = fs.get? l := by
  refine get?_overlay_of_notMem fun x hx heq => ?_
  obtain ⟨v, -, place, hplace, -, hlocation⟩ := Renderer.exists_visit_of_mem_deposits hx
  obtain ⟨n, rest, rfl⟩ := List.exists_cons_of_ne_nil (Renderer.place?_ne_nil hplace)
  exact hl n rest (heq.symm.trans hlocation)

/-- When the visits of a template have been made in a directory that has been prepared, it holds the
project. -/
lemma MakesProject.holdsProject {fs₁ : FileSystem} (h : MakesProject r forest)
    (hrooted : fs.Rooted) (hprepared : Prepared fs directory fs₁)
    (hout : fs₁.find directory = .ok (out, .directory))
    (hmade : r.Made out fs₁ (r.visits forest) fs') : HoldsProject r forest out directory fs fs' where
  find := find_of_grows hmade.grows hout
  image := by
    intro v hv
    obtain ⟨place, e, hplace, he⟩ := hmade.exists_of_mem hv
    have hlocation : out ++ place ≠ [] := fun hnil =>
      Renderer.place?_ne_nil hplace (List.append_eq_nil_iff.mp hnil).2
    refine ⟨place, e, hplace, he, ?_⟩
    rw [hmade.eq_overlay]
    exact get?_overlay_of_mem hlocation (Renderer.mem_deposits hv hplace he)
      (Renderer.product_unique h.distinct hv hplace he)
  kept := by
    intro n rest hn
    rw [hmade.eq_overlay, h.get?_overlay_of_kept hn, hprepared.get?_below hrooted hout, if_pos hn]
  nothing_else := by
    intro n rest e hn hget
    refine Decidable.byContradiction fun hnone => ?_
    rw [hmade.eq_overlay, get?_overlay_of_notMem, hprepared.get?_below hrooted hout,
      if_neg hn] at hget
    · cases hget
    · intro x hx heq
      obtain ⟨v, hv, place, hplace, -, hlocation⟩ := Renderer.exists_visit_of_mem_deposits hx
      obtain rfl : place = n :: rest := List.append_cancel_left (hlocation.symm.trans heq)
      exact hnone ⟨v, hv, hplace⟩
  outside := by
    intro l hl
    have hsame : fs'.get? l = fs₁.get? l := by
      rw [hmade.eq_overlay, get?_overlay_of_outside hl]
    rw [hsame]
    rcases hprepared.get?_outside hout hl with hold | ⟨hnone, hdir, q, hq, hfind⟩
    · exact .inl hold
    · exact .inr ⟨hnone, hdir, q, hq, find_of_grows hmade.grows hfind⟩

section Running

variable [Host]

/-- A template that makes a project is rendered by making all visits, if its rendering succeeds. -/
lemma made_of_writeProject {w w' : Workspace} (hrooted : session.workspace.files.Rooted)
    (hprepared : Prepared session.workspace.files s.directory w.files)
    (hsrc : w.files.find (templatePath around s) = .ok (src, .directory))
    (hout : w.files.find s.directory = .ok (out, .directory)) (hholds : w.files.Holds src forest)
    (hinside : ¬ src <+: out) (haround : ¬ out <+: src)
    (hmakes : MakesProject (projectRenderer s identifier) forest)
    (hwrite : (writeProject around s identifier).run w = .ok () w') :
    (projectRenderer s identifier).Made out w.files
      ((projectRenderer s identifier).visits forest) w'.files := by
  have hlinks : ∀ v ∈ (projectRenderer s identifier).visits forest, ∀ place,
      (projectRenderer s identifier).place? v = some place →
      ∀ target, w.files.get? (out ++ place) ≠ some (.link target) := by
    intro v hv place hplace target hget
    obtain ⟨n, rest, rfl⟩ := List.exists_cons_of_ne_nil (Renderer.place?_ne_nil hplace)
    rw [hprepared.get?_below hrooted hout, if_neg (hmakes.not_kept v hv n rest hplace)] at hget
    cases hget
  have hends : Ends (writeProject around s identifier) w
      (fun _ w' => (projectRenderer s identifier).Made out w.files
        ((projectRenderer s identifier).visits forest) w'.files) fun _ _ => True := by
    refine ends_writeProject (Q := (projectRenderer s identifier).Made out w.files
      ((projectRenderer s identifier).visits forest)) (R := fun _ _ => True) (fun _ _ => ?_)
      (fun _ => trivial) fun _ _ => trivial
    exact Renderer.ends_renderTree_of_success
      (w := { w with events := w.events ++ [.usingTemplate s.template s.directory] }) hsrc hout hholds
      (fun _ => Renderer.not_prefix_of_apart hinside haround) hmakes.plain hlinks
  exact hends.of_run_ok hwrite

/-- **A run that makes a project leaves the project and nothing else**, on every host and every terminal.
Let `fs` be the files when the directory of the project has been prepared, let the path of the project lead
to a directory then, and let the template that is found then lie neither around that directory nor in it
and make a project. If the run ends with the exit code zero, the directory holds the image of the template
and what was kept of its earlier entries, and nothing else, and nothing has changed outside it but that
directories on the way have been made. -/
theorem create_leaves_new_project [Terminal] (hrooted : session.workspace.files.Rooted)
    (hsettles : Settles around settings session s identifier)
    (hprepared : Prepared session.workspace.files s.directory fs)
    (hout : fs.find s.directory = .ok (out, .directory))
    (hsrc : fs.find (templatePath around s) = .ok (src, .directory)) (hholds : fs.Holds src forest)
    (hinside : ¬ src <+: out) (haround : ¬ out <+: src)
    (hmakes : MakesProject (projectRenderer s identifier) forest)
    (hrun : (create around settings).run session = .ok 0 session') :
    HoldsProject (projectRenderer s identifier) forest out s.directory session.workspace.files
      session'.workspace.files := by
  have hcourse := (course_create around settings session).of_run_ok hrun
  cases hcourse with
  | written hsettles' _ hprepare hwrite =>
      obtain ⟨rfl, rfl⟩ := hsettles.unique hsettles'
      have hprepared' := (ends_prepareTarget hrooted _).of_run_ok hprepare
      obtain rfl := hprepared.unique hprepared'
      exact hmakes.holdsProject hrooted hprepared hout
        (made_of_writeProject hrooted hprepared hsrc hout hholds hinside haround hmakes hwrite)

end Running

/-- A template makes a project if its visits have different places, which are there and not kept. -/
lemma makesProject_of_nodup (hnodup : ((r.visits forest).map r.place?).Nodup)
    (hplain : ∀ v ∈ r.visits forest, ∀ t ∈ r.targetName? v, IsPlainName t)
    (hnot : ∀ v ∈ r.visits forest, ∀ place ∈ r.place? v, ∀ n ∈ place.head?, n ∉ keptNames) :
    MakesProject r forest where
  plain v hv t ht := hplain v hv t ht
  distinct _ hv _ hv' h := .inl (List.inj_on_of_nodup_map hnodup hv hv' h)
  not_kept v hv n _ hplace := hnot v hv _ hplace n rfl

/-- A project in the directory `app` of the working directory, which may be emptied, of a template that
lies elsewhere. -/
def keptProject : Settings where
  projectName := some "app"
  template := "x"
  identifier := some "com.example.app"
  force := true
  workingDirectory := ⟨.root, ["work"]⟩
  templatesDirectory := some ⟨.root, ["t"]⟩

/-- A template with a file, and with another one in a directory. -/
def builtForest : Forest :=
  .file "a.txt" "new".toByteArray (.directory "src" (.file "b.txt.lte" "b".toByteArray .nil) .nil)

/-- A session in which the directory of the project has something that is kept, and also files,
directories and a link of earlier, one of the files under a name that the template has as well. -/
def keptSession : Session where
  workspace.files.entries := [(["t"], .directory), (["t", "template-x"], .directory),
    (["t", "template-x", "src"], .directory),
    (["t", "template-x", "src", "b.txt.lte"], .file "b".toByteArray),
    (["t", "template-x", "a.txt"], .file "new".toByteArray), (["notes"], .directory),
    (["notes", "todo"], .file "more".toByteArray), (["work"], .directory),
    (["work", "app"], .directory), (["work", "app", "lib"], .directory),
    (["work", "app", "lib", "deep"], .directory),
    (["work", "app", "lib", "deep", "old"], .file "old".toByteArray),
    (["work", "app", "a.txt"], .file "old".toByteArray), (["work", "app", ".git"], .directory),
    (["work", "app", ".git", "HEAD"], .file "main".toByteArray),
    (["work", "app", "away"], .link "/notes")]

/-- The files when the directory of `keptProject` has been emptied. -/
def clearedFiles : FileSystem :=
  keptSession.workspace.files.clear ["work", "app"] keptNames

/-- The renderer of `keptProject`. -/
def keptRenderer : Renderer :=
  projectRenderer keptProject "com.example.app"

/-- The places of what the template has, and what comes to them. -/
lemma outcomes_builtForest :
    ((keptRenderer.visits builtForest).map keptRenderer.place?,
      (keptRenderer.visits builtForest).map keptRenderer.product?) =
    ([some ["a.txt"], some ["src"], some ["src", "b.txt"]],
      [some (.file "new".toByteArray), some .directory, some (.file "b".toByteArray)]) := by
  decide +kernel

/-- The files of the session hold the template. -/
lemma keptSession_holds :
    keptSession.workspace.files.Holds ["t", "template-x"] builtForest := by
  refine ⟨children_of_perm (.swap "a.txt" "src" []) (by decide), by decide, rfl, by decide, rfl, ?_⟩
  exact ⟨children_of_perm (.refl _) (by decide), ⟨by decide, rfl, trivial⟩, trivial⟩

/-- The template is there after the directory has been emptied. -/
lemma find_template_cleared : clearedFiles.find (templatePath bareSurroundings keptProject) =
    .ok (["t", "template-x"], .directory) := by
  decide

/-- So is the directory. -/
lemma find_directory_cleared :
    clearedFiles.find keptProject.directory = .ok (["work", "app"], .directory) := by
  decide

/-- The files are what emptying the directory leaves. -/
lemma prepared_clearedFiles :
    Prepared keptSession.workspace.files keptProject.directory clearedFiles :=
  .emptied (by decide)

/-- The template is the same when the directory of the project has been emptied. -/
lemma clearedFiles_holds : clearedFiles.Holds ["t", "template-x"] builtForest := by
  refine holds_of_prepared prepared_clearedFiles find_directory_cleared (by decide) (by decide)
    (fun l _ hbefore => ?_) keptSession_holds
  refine Option.eq_none_iff_forall_ne_some.mpr fun e hafter => ?_
  rw [keeps_of_clear _ _ _ _ _ hafter] at hbefore
  cases hbefore

/-- The project is written. The names of the template are read off its tree, for sorting does not compute
here. -/
lemma ends_writeProject_kept :
    Ends (writeProject bareSurroundings keptProject "com.example.app") ⟨clearedFiles, []⟩
      (fun _ _ => True) fun _ _ => False := by
  have hdir := isDirectory_of_find find_template_cleared
  refine ends_writeProject (Q := fun _ => True) (R := fun _ _ => False) (fun src _ => ?_)
    (fun hnot => ?_) fun f hf => ?_
  · refine Renderer.ends_renderTree_of_find find_template_cleared
      (makeDirectories_of_find find_directory_cleared) ?_
    refine Renderer.ends_renderDirectory_of_find find_template_cleared ?_
    rw [clearedFiles_holds.names]
    have hvisits : Ends (Renderer.visitAll (keptRenderer.visit (keptRenderer.renderDirectory 4095)
        (templatePath bareSurroundings keptProject) keptProject.directory) ["a.txt", "src"])
        ⟨clearedFiles, [.usingTemplate "x" keptProject.directory]⟩
        (fun _ _ => True) fun _ _ => False := by decide +kernel
    exact hvisits
  · cases hdir.symm.trans hnot
  · cases hdir.symm.trans hf

/-- The whole command succeeds, step by step. -/
lemma ends_create_kept :
    Ends (create bareSurroundings keptProject) keptSession (fun code _ => code = 0)
      fun _ _ => False := by
  have hname : Ends (settleName keptProject) keptSession
      (fun s session' => s = keptProject ∧ session' = keptSession) fun _ _ => False := by
    decide
  have hidentifier : Ends (settleIdentifier bareSurroundings keptProject) keptSession
      (fun identifier session' => identifier = "com.example.app" ∧ session' = keptSession)
      fun _ _ => False := by
    decide
  have hmay : Ends (mayOverwrite keptProject) keptSession
      (fun allowed session' => allowed = true ∧ session' = keptSession) fun _ _ => False := by
    decide
  have hprepare : Ends (Work.prepareTarget keptProject.directory) keptSession.workspace
      (fun _ w => w = ⟨clearedFiles, []⟩) fun _ _ => False := by
    decide
  unfold create
  refine Ends.bind (hname.mono ?_ fun _ _ h => h)
  rintro _ _ ⟨rfl, rfl⟩
  refine Ends.bind (hidentifier.mono ?_ fun _ _ h => h)
  rintro _ _ ⟨rfl, rfl⟩
  refine Ends.bind (hmay.mono ?_ fun _ _ h => h)
  rintro _ _ ⟨rfl, rfl⟩
  simp only [if_true]
  refine Ends.bind (Act.ends_work (hprepare.mono ?_ fun _ _ h => h))
  rintro _ _ rfl
  refine Ends.bind (Act.ends_work (ends_writeProject_kept.mono (fun _ w _ => ?_) fun _ _ h => h))
  have hbootstrap : bootstrap bareSurroundings keptProject keptProject.directory = pure false := rfl
  rw [hbootstrap]
  exact Ends.bind (ends_pure (Ends.bind (ends_modify (ends_pure rfl))))

/-- The project takes the place of the files, directories and the link that were there, its history stays,
and so does what the link led to. -/
theorem create_leaves_new_project_kept :
    ∃ session', (create bareSurroundings keptProject).run keptSession = .ok 0 session' ∧
      session'.workspace.files.get? ["work", "app", "a.txt"] = some (.file "new".toByteArray) ∧
      session'.workspace.files.get? ["work", "app", "src", "b.txt"] = some (.file "b".toByteArray) ∧
      session'.workspace.files.get? ["work", "app", ".git", "HEAD"] =
        some (.file "main".toByteArray) ∧
      session'.workspace.files.get? ["work", "app", "lib", "deep", "old"] = none ∧
      session'.workspace.files.get? ["work", "app", "away"] = none ∧
      session'.workspace.files.get? ["notes", "todo"] = some (.file "more".toByteArray) := by
  obtain ⟨_, session', hrun, rfl⟩ := ends_create_kept.exists_run_ok
  obtain ⟨hplaces, hproducts⟩ := Prod.mk.inj outcomes_builtForest
  have hmakes : MakesProject keptRenderer builtForest :=
    makesProject_of_nodup (by rw [hplaces]; decide) (by decide +kernel) (by decide +kernel)
  have hproject := create_leaves_new_project (rooted_of_entries (by decide))
    ⟨keptSession, keptSession, rfl, rfl⟩ prepared_clearedFiles find_directory_cleared
    find_template_cleared clearedFiles_holds (by decide) (by decide) hmakes hrun
  -- what the visits leave is where their places are
  have himage : ∀ v ∈ keptRenderer.visits builtForest, ∀ place e, keptRenderer.place? v = some place →
      keptRenderer.product? v = some e →
      session'.workspace.files.get? (["work", "app"] ++ place) = some e := by
    intro v hv place e hplace he
    obtain ⟨place', e', hplace', he', hget⟩ := hproject.image v hv
    obtain rfl := Option.some.inj (hplace.symm.trans hplace')
    obtain rfl := Option.some.inj (he.symm.trans he')
    exact hget
  -- nothing else is there
  have hnone : ∀ n rest, n ∉ keptNames →
      some (n :: rest) ∉ (keptRenderer.visits builtForest).map keptRenderer.place? →
      session'.workspace.files.get? ("work" :: "app" :: n :: rest) = none := by
    intro n rest hn hnot
    refine Option.eq_none_iff_forall_ne_some.mpr fun e hget => hnot ?_
    obtain ⟨v, hv, hplace⟩ := hproject.nothing_else n rest e hn hget
    exact List.mem_map.mpr ⟨v, hv, hplace⟩
  rw [hplaces] at hnone
  have hvisits : keptRenderer.visits builtForest = [⟨[], "a.txt", some "new".toByteArray⟩,
      ⟨[], "src", none⟩, ⟨["src"], "b.txt.lte", some "b".toByteArray⟩] := rfl
  rw [hvisits] at hplaces hproducts himage
  simp only [List.map_cons, List.map_nil, List.cons.injEq, and_true] at hplaces hproducts
  refine ⟨session', hrun, ?_, ?_, ?_, ?_, ?_, ?_⟩
  · exact himage _ List.mem_cons_self _ _ hplaces.1 hproducts.1
  · exact himage _ (by simp) _ _ hplaces.2.2 hproducts.2.2
  · exact hproject.kept ".git" ["HEAD"] (by decide)
  · exact hnone "lib" ["deep", "old"] (by decide) (by decide)
  · exact hnone "away" [] (by decide) (by decide)
  · exact (hproject.outside ["notes", "todo"] (by simp)).resolve_right (by rintro ⟨h, -⟩; cases h)

/-! ## Paths that lead through what is emptied -/

/-- A template with one file. -/
def copiedForest : Forest :=
  .file "a.txt" "new".toByteArray .nil

/-- The one visit of `copiedForest`. -/
def copiedVisit : Visit :=
  ⟨[], "a.txt", some "new".toByteArray⟩

lemma visits_copiedForest :
    (projectRenderer s identifier).visits copiedForest = [copiedVisit] := rfl

/-- `copiedForest` makes a project if the name of its file comes out as it is. -/
lemma copiedForest_makesProject
    (hplace : (projectRenderer s identifier).place? copiedVisit = some ["a.txt"]) :
    MakesProject (projectRenderer s identifier) copiedForest := by
  refine makesProject_of_nodup ?_ ?_ ?_
  · rw [visits_copiedForest]
    exact List.nodup_singleton _
  · rw [visits_copiedForest, List.forall_mem_singleton]
    intro t ht
    rw [Renderer.place?, Option.mem_def.mp ht] at hplace
    obtain rfl : t = "a.txt" := by
      simpa [Renderer.directoryNames?, copiedVisit] using hplace
    decide
  · rw [visits_copiedForest, List.forall_mem_singleton, hplace]
    decide

/-- A project in the working directory, which may be emptied, along a path that leads through one of
its entries. -/
def detourProject : Settings :=
  { keptProject with projectName := some "sub/.." }

/-- A session in which the entry on the way of `detourProject` is an empty directory. -/
def detourSession : Session where
  workspace.files.entries := [(["t"], .directory), (["t", "template-x"], .directory),
    (["t", "template-x", "a.txt"], .file "new".toByteArray), (["work"], .directory),
    (["work", "sub"], .directory)]

/-- A run may leave a directory that is neither kept nor of the template if the path of the project
leads through it, even if it leads to a directory. -/
theorem not_holdsProject_of_real_directory :
    ¬ ∀ (around : Surroundings) (settings s : Settings) (identifier : String)
      (session session' : Session) (out src : Location) (forest : Forest),
      session.workspace.files.Rooted → Settles around settings session s identifier →
      session.workspace.files.locate false s.directory = .ok (.present out .directory) →
      session.workspace.files.find (templatePath around s) = .ok (src, .directory) →
      session.workspace.files.Holds src forest → ¬ src <+: out → ¬ out <+: src →
      MakesProject (projectRenderer s identifier) forest →
      (create around settings).run session = .ok 0 session' →
      HoldsProject (projectRenderer s identifier) forest out s.directory session.workspace.files
        session'.workspace.files := by
  intro hgeneral
  have hends : Ends (create bareSurroundings detourProject) detourSession
      (fun code session' => code = 0 ∧
        session'.workspace.files.get? ["work", "sub"] = some .directory) fun _ _ => False := by
    decide +kernel
  obtain ⟨_, session', hrun, rfl, hsub⟩ := hends.exists_run_ok
  have hplace : (projectRenderer detourProject "com.example.app").place? copiedVisit =
      some ["a.txt"] := by decide +kernel
  have hproject := hgeneral bareSurroundings detourProject detourProject "com.example.app"
    detourSession session' ["work"] ["t", "template-x"] copiedForest (rooted_of_entries (by decide))
    ⟨detourSession, detourSession, rfl, rfl⟩ (by decide) (by decide)
    ⟨children_of_perm (.refl _) (by decide), by decide, rfl, trivial⟩ (by decide) (by decide)
    (copiedForest_makesProject hplace) hrun
  obtain ⟨v, hv, hsubPlace⟩ := hproject.nothing_else "sub" [] _ (by decide) hsub
  rw [visits_copiedForest, List.mem_singleton] at hv
  rw [hv, hplace] at hsubPlace
  exact absurd hsubPlace (by decide)

/-! ## Paths that lead through the template -/

/-- A project along a path that leads through a directory that is missing in the template. -/
def passingProject : Settings :=
  { keptProject with
    projectName := some "../t/template-x/new/../../../work/app"
    force := false }

/-- A session in which there is nothing in the template. -/
def passingSession : Session where
  workspace.files.entries :=
    [(["t"], .directory), (["t", "template-x"], .directory), (["work"], .directory)]

/-- The files when the directory of `passingProject` has been made. -/
def passedFiles : FileSystem :=
  passingSession.workspace.files.overlay
    (asDirectories [["t", "template-x", "new"], ["work", "app"]])

/-- A run may leave what the template had not before the run, if the path of the project leads through
the template. -/
theorem not_holdsProject_of_earlier_template :
    ¬ ∀ (around : Surroundings) (settings s : Settings) (identifier : String)
      (session session' : Session) (fs : FileSystem) (out src : Location) (forest : Forest),
      session.workspace.files.Rooted → Settles around settings session s identifier →
      Prepared session.workspace.files s.directory fs →
      fs.find s.directory = .ok (out, .directory) →
      session.workspace.files.find (templatePath around s) = .ok (src, .directory) →
      session.workspace.files.Holds src forest → ¬ src <+: out → ¬ out <+: src →
      MakesProject (projectRenderer s identifier) forest →
      (create around settings).run session = .ok 0 session' →
      HoldsProject (projectRenderer s identifier) forest out s.directory session.workspace.files
        session'.workspace.files := by
  intro hgeneral
  have hends : Ends (create bareSurroundings passingProject) passingSession
      (fun code session' => code = 0 ∧
        session'.workspace.files.get? ["work", "app", "new"] = some .directory)
      fun _ _ => False := by
    decide +kernel
  obtain ⟨_, session', hrun, rfl, hnew⟩ := hends.exists_run_ok
  have hvisits : (projectRenderer passingProject "com.example.app").visits .nil = [] := rfl
  have hproject := hgeneral bareSurroundings passingProject passingProject "com.example.app"
    passingSession session' passedFiles ["work", "app"] ["t", "template-x"] .nil
    (rooted_of_entries (by decide)) ⟨passingSession, passingSession, rfl, rfl⟩
    (.made (by decide) (by decide +kernel)) (by decide) (by decide)
    ⟨children_of_perm (.refl _) (by decide), trivial⟩ (by decide) (by decide)
    (by constructor <;> simp [hvisits]) hrun
  obtain ⟨v, hv, -⟩ := hproject.nothing_else "new" [] _ (by decide) hnew
  rw [hvisits] at hv
  cases hv

end Scaffold.CommandLine
