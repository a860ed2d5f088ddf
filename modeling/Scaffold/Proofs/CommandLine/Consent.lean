import Mathlib.Tactic.Lemma
import Scaffold.Proofs.CommandLine.Creating

/-!
# Runs that may not overwrite

A run whose settings do not allow overwriting, and whose user does not, finds the directory of the
project empty or missing. All that it does then is make directories on the way there and lay down
entries below it.

* `RendersPlainTree`: the template that a run comes to render is a tree of plain names.
* `create_keeps_without_consent`: such a run takes nothing away, however it ends, and a run that ends
  with the exit code one changes nothing.
* `not_keeps_of_plain_template`: it does not suffice that the names in the template are plain before
  the directory of the project has been made.
-/

namespace Scaffold.CommandLine

open Scaffold.Tree FileSystem

variable {around : Surroundings} {settings s : Settings} {identifier : String}
  {session session' : Session} {out : Location} {outcome : Except Stop Nat}

section Running

variable [Terminal]

/-- The template that a run comes to render, as it is when the directory of the project has been
prepared, is a tree of directories and files in which every name that the rendering comes to gives a
plain one, if it renders. -/
def RendersPlainTree (around : Surroundings) (settings : Settings) (session : Session) : Prop :=
  ∀ s identifier fs src out, Settles around settings session s identifier →
    Prepared session.workspace.files s.directory fs →
    fs.find (templatePath around s) = .ok (src, .directory) →
    fs.find s.directory = .ok (out, .directory) →
    (projectRenderer s identifier).PlainTree fs src out

variable [Host]

omit [Terminal] in
/-- A template that is rendered into an empty directory takes nothing away. -/
lemma keeps_writeProject {w : Workspace} (hout : w.files.find s.directory = .ok (out, .directory))
    (hempty : ∀ rest, rest ≠ [] → w.files.get? (out ++ rest) = none)
    (hplain : ∀ src, w.files.find (templatePath around s) = .ok (src, .directory) →
      (projectRenderer s identifier).PlainTree w.files src out) :
    Ends (writeProject around s identifier) w (fun _ w' => Keeps w.files w'.files)
      fun _ w' => Keeps w.files w'.files := by
  refine ends_writeProject (Q := Keeps w.files) (R := fun _ => Keeps w.files) (fun src hfind => ?_)
    (fun _ => .refl _) fun _ _ => .refl _
  have hlinks : ∀ l n target, out <+: l → w.files.get? (l ++ [n]) ≠ some (.link target) := by
    rintro l n target ⟨rest, rfl⟩ hget
    rw [List.append_assoc, hempty _ (by simp)] at hget
    cases hget
  have hlays := Renderer.onlyLays_renderTree (hplain src hfind) hlinks
    (w := { w with events := w.events ++ [.usingTemplate s.template s.directory] }) rfl hfind hout
  exact hlays.mono (fun _ _ h => Renderer.keeps_of_lays h hempty)
    fun _ _ h => Renderer.keeps_of_lays h hempty

/-- A run for which there is nothing to overwrite takes nothing away. -/
lemma keeps_of_vacant {w : Workspace} (hrooted : session.workspace.files.Rooted)
    (htemplate : RendersPlainTree around settings session)
    (hsettles : Settles around settings session s identifier)
    (hvacant : Vacant session.workspace.files s.directory)
    (hprepared : Prepared session.workspace.files s.directory w.files) :
    Ends (writeProject around s identifier) w
      (fun _ w' => Keeps session.workspace.files w'.files)
      fun _ w' => Keeps session.workspace.files w'.files := by
  have hkeeps := hprepared.preparing.keeps hrooted hvacant
  obtain ⟨out, hout, hempty⟩ := hprepared.exists_find hrooted hvacant
  exact (keeps_writeProject hout hempty fun src hfind =>
    htemplate s identifier _ src out hsettles hprepared hfind hout).mono
      (fun _ _ h => hkeeps.trans h) fun _ _ h => hkeeps.trans h

/-- A run that may not overwrite takes nothing away. -/
lemma keeps_of_course (hrooted : session.workspace.files.Rooted) (hforce : settings.force = false)
    (htemplate : RendersPlainTree around settings session)
    (hcourse : Course around settings session session' outcome)
    (hconsent : session'.consent ≠ some true) :
    Keeps session.workspace.files session'.workspace.files := by
  have hvacant : ∀ {s identifier}, Settles around settings session s identifier →
      MayChange s session session' → Vacant session.workspace.files s.directory := by
    rintro s identifier hsettles (hvacant | hforced | hyes)
    · exact hvacant
    · rw [force_of_settles hsettles, hforce] at hforced
      cases hforced
    · exact absurd hyes hconsent
  cases hcourse with
  | stopped hfiles =>
      rw [hfiles]
      exact .refl _
  | refused hfiles =>
      rw [hfiles]
      exact .refl _
  | unprepared hsettles hmay hprepare =>
      have hpreparing := ((ends_prepareTarget hrooted _).of_run_error hprepare).1
      exact hpreparing.keeps hrooted (hvacant hsettles hmay)
  | untold hsettles hmay hprepare =>
      have hprepared := (ends_prepareTarget hrooted _).of_run_ok hprepare
      exact hprepared.preparing.keeps hrooted (hvacant hsettles hmay)
  | unwritten hsettles hmay hprepare hwrite =>
      have hprepared := (ends_prepareTarget hrooted _).of_run_ok hprepare
      exact (keeps_of_vacant hrooted htemplate hsettles (hvacant hsettles hmay)
        hprepared).of_run_error hwrite
  | written hsettles hmay hprepare hwrite =>
      have hprepared := (ends_prepareTarget hrooted _).of_run_ok hprepare
      exact (keeps_of_vacant hrooted htemplate hsettles (hvacant hsettles hmay)
        hprepared).of_run_ok hwrite

/-- **Nothing is taken away without consent.** On every host and every terminal, a run whose settings do not
allow overwriting takes nothing away unless the user has said yes to it, however the run ends; and a run
that ends with the exit code one changes nothing at all. The names in the template are to be plain, also
those that come from entries which the run itself makes in the template, if the project goes there. -/
theorem create_keeps_without_consent (hrooted : session.workspace.files.Rooted)
    (hforce : settings.force = false) (htemplate : RendersPlainTree around settings session) :
    Ends (create around settings) session
      (fun code session' =>
        (session'.consent ≠ some true →
          Keeps session.workspace.files session'.workspace.files) ∧
        (code = 1 → session'.workspace.files = session.workspace.files))
      fun _ session' => session'.consent ≠ some true →
        Keeps session.workspace.files session'.workspace.files := by
  refine (course_create around settings session).mono (fun code session' hcourse => ?_)
    fun stop session' hcourse => keeps_of_course hrooted hforce htemplate hcourse
  refine ⟨keeps_of_course hrooted hforce htemplate hcourse, ?_⟩
  rintro rfl
  cases hcourse with
  | refused hfiles => rw [hfiles]
  | written _ _ _ _ houtcome =>
      rcases houtcome with hzero | ⟨stop, hstop, -⟩
      · cases hzero
      · cases hstop

end Running

/-- A project in the directory `app` of the working directory, from a template that lies elsewhere. -/
def plainProject : Settings where
  projectName := some "app"
  template := "x"
  identifier := some "com.example.app"
  workingDirectory := ⟨.root, ["work"]⟩
  templatesDirectory := some ⟨.root, ["t"]⟩

/-- Files with a template, and a file beside the directory of the project. -/
def plainFiles : FileSystem where
  entries := [(["t"], .directory), (["t", "template-x"], .directory),
    (["t", "template-x", "a.txt"], .file "new".toByteArray), (["work"], .directory),
    (["work", "todo.txt"], .file "more".toByteArray)]

/-- The template has no names that lead anywhere else. -/
lemma plainFiles_rendersPlainTree :
    RendersPlainTree bareSurroundings plainProject { workspace := ⟨plainFiles, []⟩ } := by
  intro s identifier fs src out hsettles hprepared hsrc hout
  obtain ⟨rfl, rfl⟩ := settles_of_given rfl rfl hsettles
  have hmissing : plainFiles.find plainProject.directory =
      .error (.system .noEntry plainProject.directory) := by decide
  have hmade : plainFiles.makeDirectories false plainProject.directory =
      (.ok (), plainFiles.overlay (asDirectories [["work", "app"]])) := by decide +kernel
  cases hprepared with
  | emptied hfind =>
      rw [hmissing] at hfind
      cases hfind
  | made _ hmake =>
      obtain rfl := (Prod.mk.inj (hmade.symm.trans hmake)).2
      have hfoundSrc : (plainFiles.overlay (asDirectories [["work", "app"]])).find
          (templatePath bareSurroundings plainProject) =
            .ok (["t", "template-x"], .directory) := by decide +kernel
      have hfoundOut : (plainFiles.overlay (asDirectories [["work", "app"]])).find
          plainProject.directory = .ok (["work", "app"], .directory) := by decide
      obtain rfl := eq_of_find hfoundSrc hsrc
      obtain rfl := eq_of_find hfoundOut hout
      exact (Renderer.plainNames_of_entries (by decide +kernel)).plainTree (by decide) (by decide)

/-- A project is made without asking, and the file beside it stays. -/
theorem create_keeps_without_consent_plain :
    ∃ session', (create bareSurroundings plainProject).run { workspace := ⟨plainFiles, []⟩ } =
        .ok 0 session' ∧
      session'.workspace.files.get? ["work", "todo.txt"] = some (.file "more".toByteArray) := by
  have hends : Ends (create bareSurroundings plainProject) { workspace := ⟨plainFiles, []⟩ }
      (fun code session' => code = 0 ∧ session'.consent = none) fun _ _ => False := by
    decide +kernel
  obtain ⟨code, session', hrun, rfl, hconsent⟩ := hends.exists_run_ok
  have hkeeps := (create_keeps_without_consent (rooted_of_entries (by decide)) rfl
    plainFiles_rendersPlainTree).of_run_ok hrun
  exact ⟨session', hrun, hkeeps.1 (by simp [hconsent]) _ _ rfl⟩

/-! ## Projects in their own template -/

/-- The template that a run is told to render, as it is before the run, is a tree of directories and
files in which every name gives a plain one, if it renders. -/
def HasPlainTemplate (around : Surroundings) (settings : Settings) (session : Session) : Prop :=
  ∀ s identifier src, Settles around settings session s identifier →
    session.workspace.files.find (templatePath around s) = .ok (src, .directory) →
    (projectRenderer s identifier).PlainNames session.workspace.files src

/-- A project that goes into its own template. On the way there a directory is made whose name renders
to a path out of the template. -/
def nestedProject : Settings where
  projectName := some "\x7b% identifier %\x7d/p"
  template := "x"
  identifier := some "../../../victim"
  workingDirectory := ⟨.root, ["t", "template-x"]⟩
  templatesDirectory := some ⟨.root, ["t"]⟩

/-- The bindings of `nestedProject`. -/
def nestedRenderer : Renderer :=
  projectRenderer nestedProject "../../../victim"

/-- Files with the template, and a file of the same name elsewhere. -/
def victimFiles : FileSystem where
  entries := [(["t"], .directory), (["t", "template-x"], .directory),
    (["t", "template-x", "a.txt"], .file "new".toByteArray), (["t", "victim"], .directory),
    (["t", "victim", "p"], .directory), (["t", "victim", "p", "a.txt"], .file "old".toByteArray)]

/-- The directories on the way to `nestedProject`, the last of them its own. -/
def nestedDirectories : List Location :=
  [["t", "template-x", "\x7b% identifier %\x7d"],
    ["t", "template-x", "\x7b% identifier %\x7d", "p"]]

/-- The files when the directory of `nestedProject` has been made. -/
def nestedFiles : FileSystem :=
  victimFiles.overlay (asDirectories nestedDirectories)

/-- The files when the file of the template has been copied. -/
def copiedFiles : FileSystem :=
  nestedFiles.deposit
    (["t", "template-x", "\x7b% identifier %\x7d", "p", "a.txt"], .file "new".toByteArray)

/-- The names in the template. -/
lemma children_nestedFiles :
    nestedFiles.children ["t", "template-x"] = ["a.txt", "\x7b% identifier %\x7d"] :=
  children_of_perm (by decide) (by decide)

/-- What has been noted when the file of the template has been copied. -/
def copiedEvents : List Event :=
  [.usingTemplate "x" nestedProject.directory,
    .copying ((templatePath bareSurroundings nestedProject).child "a.txt")
      (nestedProject.directory.child "a.txt")]

/-- The template of `nestedProject` is copied over the file elsewhere. -/
lemma ends_writeProject_nested :
    Ends (writeProject bareSurroundings nestedProject "../../../victim") ⟨nestedFiles, []⟩
      (fun _ w => w.files.get? ["t", "victim", "p", "a.txt"] = some (.file "new".toByteArray))
      fun _ _ => False := by
  have hsrc : nestedFiles.find (templatePath bareSurroundings nestedProject) =
      .ok (["t", "template-x"], .directory) := by decide
  have hout : nestedFiles.find nestedProject.directory =
      .ok (["t", "template-x", "\x7b% identifier %\x7d", "p"], .directory) := by decide
  have hdir := isDirectory_of_find hsrc
  refine ends_writeProject (Q := fun fs => fs.get? ["t", "victim", "p", "a.txt"] =
      some (.file "new".toByteArray)) (R := fun _ _ => False) (fun src _ => ?_)
    (fun hnot => ?_) fun f hf => ?_
  · refine Renderer.ends_renderTree_of_find hsrc (makeDirectories_of_find hout) ?_
    refine Renderer.ends_renderDirectory_of_find hsrc ?_
    rw [children_nestedFiles]
    -- first the file is copied, and then the new directory is rendered
    have hfile : Ends (nestedRenderer.visit (nestedRenderer.renderDirectory 4095)
        (templatePath bareSurroundings nestedProject) nestedProject.directory "a.txt")
        ⟨nestedFiles, [.usingTemplate "x" nestedProject.directory]⟩
        (fun _ w => w = ⟨copiedFiles, copiedEvents⟩) fun _ _ => False := by decide +kernel
    have hdirectory : Ends (Renderer.visitAll (nestedRenderer.visit
        (nestedRenderer.renderDirectory 4095) (templatePath bareSurroundings nestedProject)
        nestedProject.directory) ["\x7b% identifier %\x7d"]) ⟨copiedFiles, copiedEvents⟩
        (fun _ w => w.files.get? ["t", "victim", "p", "a.txt"] =
          some (.file "new".toByteArray)) fun _ _ => False := by decide +kernel
    refine Ends.bind (hfile.mono ?_ fun _ _ h => h)
    rintro _ _ rfl
    exact Ends.bind (hdirectory.mono (fun _ _ h => ends_pure h) fun _ _ h => h)
  · cases hdir.symm.trans hnot
  · cases hdir.symm.trans hf

/-- The session in which `nestedProject` is made. -/
def victimSession : Session where
  workspace.files := victimFiles

/-- The file elsewhere is overwritten by a run in which nobody is asked about that. -/
lemma ends_create_nested :
    Ends (create bareSurroundings nestedProject) victimSession
      (fun _ session' => session'.consent = none ∧
        session'.workspace.files.get? ["t", "victim", "p", "a.txt"] =
          some (.file "new".toByteArray))
      fun _ _ => False := by
  have hname : Ends (settleName nestedProject) victimSession
      (fun s session' => s = nestedProject ∧ session' = victimSession) fun _ _ => False := by
    decide
  have hidentifier : Ends (settleIdentifier bareSurroundings nestedProject) victimSession
      (fun identifier session' => identifier = "../../../victim" ∧ session' = victimSession)
      fun _ _ => False := by
    decide
  have hmay : Ends (mayOverwrite nestedProject) victimSession
      (fun allowed session' => allowed = true ∧ session' = victimSession) fun _ _ => False := by
    decide
  have hprepare : Ends (Work.prepareTarget nestedProject.directory) victimSession.workspace
      (fun _ w => w = ⟨nestedFiles, []⟩) fun _ _ => False := by
    decide +kernel
  unfold create
  refine Ends.bind (hname.mono ?_ fun _ _ h => h)
  rintro _ _ ⟨rfl, rfl⟩
  refine Ends.bind (hidentifier.mono ?_ fun _ _ h => h)
  rintro _ _ ⟨rfl, rfl⟩
  refine Ends.bind (hmay.mono ?_ fun _ _ h => h)
  rintro _ _ ⟨rfl, rfl⟩
  simp only [if_true]
  refine Ends.bind (Act.ends_work (hprepare.mono ?_ fun _ _ h => h))
  rintro _ _ rfl
  refine Ends.bind (Act.ends_work (ends_writeProject_nested.mono (fun _ w hw => ?_) fun _ _ h => h))
  have hbootstrap : bootstrap bareSurroundings nestedProject nestedProject.directory =
      pure false := rfl
  rw [hbootstrap]
  exact Ends.bind (ends_pure (Ends.bind (ends_modify (ends_pure ⟨rfl, hw⟩))))

/-- The template is a tree of directories and files whose names render to plain ones. -/
lemma victimSession_hasPlainTemplate :
    HasPlainTemplate bareSurroundings nestedProject victimSession := by
  intro s identifier src hsettles hfind
  obtain ⟨rfl, rfl⟩ := settles_of_given rfl rfl hsettles
  have hsrc : victimSession.workspace.files.find (templatePath bareSurroundings nestedProject) =
      .ok (["t", "template-x"], .directory) := by decide
  obtain rfl := eq_of_find hsrc hfind
  exact Renderer.plainNames_of_entries (by decide +kernel)

/-- A run that may not overwrite may do so all the same if the project goes into its own template, even
if every name in the template is plain before the run. -/
theorem not_keeps_of_plain_template :
    ¬ ∀ (around : Surroundings) (settings : Settings) (session : Session),
      session.workspace.files.Rooted → settings.force = false →
      HasPlainTemplate around settings session →
      Ends (create around settings) session
        (fun code session' =>
          (session'.consent ≠ some true →
            Keeps session.workspace.files session'.workspace.files) ∧
          (code = 1 → session'.workspace.files = session.workspace.files))
        fun _ session' => session'.consent ≠ some true →
          Keeps session.workspace.files session'.workspace.files := by
  intro hkeeps
  have hgeneral := hkeeps bareSurroundings nestedProject victimSession
    (rooted_of_entries (by decide)) rfl victimSession_hasPlainTemplate
  obtain ⟨code, session', hrun, hconsent, hnew⟩ := ends_create_nested.exists_run_ok
  have hold := (hgeneral.of_run_ok hrun).1 (by simp [hconsent])
    ["t", "victim", "p", "a.txt"] (.file "old".toByteArray) rfl
  rw [hnew] at hold
  exact absurd hold (by decide)

end Scaffold.CommandLine
