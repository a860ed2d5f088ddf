import Mathlib.Tactic.Lemma
import Scaffold.Proofs.CommandLine.Creating

/-!
# Projects of unknown templates

The template of a project is looked up after the directory of the project has been prepared.

* `create_unknownTemplate`: a run that finds no template leaves everything but what it was allowed to
  overwrite.
* `not_keeps_of_create_unknownTemplate`: what it was allowed to overwrite may be gone.
-/

namespace Scaffold.CommandLine

open Scaffold.Tree FileSystem

variable {around : Surroundings} {settings s : Settings} {identifier : String}
  {session session' : Session} {name : String} {path : Path}

section Running

variable [Host]

/-- Rendering the template of a project does nothing if there is none. -/
lemma files_of_writeProject_unknownTemplate {w w' : Workspace}
    (h : (writeProject around s identifier).run w = .error (.unknownTemplate name path) w') :
    w'.files = w.files := by
  have hends : Ends (writeProject around s identifier) w (fun _ _ => True)
      fun problem w' => problem.Known ∨ w'.files = w.files := by
    refine ends_writeProject (Q := fun _ => True)
      (R := fun problem fs => problem.Known ∨ fs = w.files) (fun src _ => ?_) (fun _ => .inr rfl)
      fun _ _ => .inr rfl
    exact (Renderer.knows_renderTree _ _ _ _).mono (fun _ _ _ => trivial) fun _ _ h => .inl h
  exact (hends.of_run_error h).resolve_left fun hknown => hknown name path rfl

variable [Terminal]

/-- A run that finds no template has stopped when the directory of the project was prepared. -/
lemma exists_prepared_of_create_unknownTemplate (hrooted : session.workspace.files.Rooted)
    (hrun : (create around settings).run session =
      .error (.problem (.unknownTemplate name path)) session') :
    session'.workspace = session.workspace ∨
      ∃ s identifier, Settles around settings session s identifier ∧ MayChange s session session' ∧
        Prepared session.workspace.files s.directory session'.workspace.files := by
  have hcourse := (course_create around settings session).of_run_error hrun
  cases hcourse with
  | stopped hfiles => exact .inl hfiles
  | @unprepared s identifier _ _ _ hprepare =>
      obtain ⟨-, f, hf⟩ := (ends_prepareTarget hrooted s.directory).of_run_error hprepare
      exact absurd hf.symm (Problem.known_ofFailure _ _ f name path)
  | untold _ _ _ hknown => exact absurd rfl (hknown name path)
  | @unwritten s identifier w _ hsettles hmay hprepare hwrite =>
      have hprepared := (ends_prepareTarget hrooted s.directory).of_run_ok hprepare
      rw [← files_of_writeProject_unknownTemplate hwrite] at hprepared
      exact .inr ⟨s, identifier, hsettles, hmay, hprepared⟩
  | written _ _ _ _ houtcome =>
      rcases houtcome with hok | ⟨stop, hstop, hknown⟩
      · cases hok
      · cases hstop
        exact absurd rfl (hknown name path)

omit [Host] in
/-- A problem that is to be expected is reported, with the exit code one. -/
lemma run_reportProblems {act : Act Nat} {problem : Problem}
    (hrun : act.run session = .error (.problem problem) session')
    (hexpected : problem.isExpected = true) :
    (reportProblems act).run session =
      .ok 1 { session' with output := session'.output ++ Terminal.error problem.message } := by
  simp only [EStateM.run] at hrun ⊢
  simp only [reportProblems, tryCatch, tryCatchThe, MonadExceptOf.tryCatch, EStateM.tryCatch, bind,
    EStateM.bind, hrun, hexpected, EStateM.Backtrackable.restore, if_true]
  rfl

/-- **An unknown template costs what the run may overwrite.** On every host and every terminal, a run that
finds no template is reported, with the exit code one. Whatever lay somewhere before it lies there still,
unless the settings or the user allowed overwriting: then what lay below the directory of the project may
be gone, but for what is kept there. -/
theorem create_unknownTemplate (hrooted : session.workspace.files.Rooted)
    (hrun : (create around settings).run session =
      .error (.problem (.unknownTemplate name path)) session') :
    (reportProblems (create around settings)).run session =
        .ok 1 { session' with
          output := session'.output ++ Terminal.error ("Template not found: " ++ path.toString) } ∧
      ∀ l e, session.workspace.files.get? l = some e →
        session'.workspace.files.get? l = some e ∨
          (settings.force = true ∨ session'.consent = some true) ∧
            ∃ s identifier d n rest, Settles around settings session s identifier ∧
              session.workspace.files.find s.directory = .ok (d, .directory) ∧
              l = d ++ n :: rest ∧ n ∉ keptNames := by
  have hmessage : (Problem.unknownTemplate name path).message =
      "Template not found: " ++ path.toString := rfl
  refine ⟨by rw [run_reportProblems hrun rfl, hmessage], fun l e hget => ?_⟩
  rcases exists_prepared_of_create_unknownTemplate hrooted hrun with
    hfiles | ⟨s, identifier, hsettles, hmay, hprepared⟩
  · exact .inl (by rw [hfiles, hget])
  rcases hmay with hvacant | hallowed
  · exact .inl (hprepared.preparing.keeps hrooted hvacant l e hget)
  · rw [force_of_settles hsettles] at hallowed
    rcases hprepared.get?_cases hget with hkept | ⟨d, n, rest, hfind, hl, hn⟩
    · exact .inl hkept
    · exact .inr ⟨hallowed, s, identifier, d, n, rest, hsettles, hfind, hl, hn⟩

end Running

/-- A project in the directory `app` of the working directory, which may be emptied, of a template
that there is none of. -/
def strayProject : Settings where
  projectName := some "app"
  template := "svelte"
  identifier := some "com.example.app"
  force := true
  workingDirectory := ⟨.root, ["work"]⟩

/-- A session in which there is a file in the directory of the project and another one beside it. -/
def notesSession : Session where
  workspace.files.entries := [(["work"], .directory), (["work", "app"], .directory),
    (["work", "app", "notes.txt"], .file "mine".toByteArray),
    (["work", "todo.txt"], .file "more".toByteArray)]

/-- The files lie in directories. -/
lemma notesSession_rooted : notesSession.workspace.files.Rooted :=
  rooted_of_entries (by decide)

/-- The stray project is not made, and the file that was in its directory is gone. -/
lemma exists_run_strayProject :
    ∃ session', (create bareSurroundings strayProject).run notesSession =
        .error (.problem (.unknownTemplate "svelte" ⟨.root, ["templates", "template-svelte"]⟩))
          session' ∧
      session'.workspace.files.get? ["work", "app", "notes.txt"] = none := by
  have hends : Ends (create bareSurroundings strayProject) notesSession (fun _ _ => False)
      fun stop session' =>
        stop = .problem (.unknownTemplate "svelte" ⟨.root, ["templates", "template-svelte"]⟩) ∧
          session'.workspace.files.get? ["work", "app", "notes.txt"] = none := by
    decide
  obtain ⟨-, session', hrun, rfl, hlost⟩ := hends.exists_run_error
  exact ⟨session', hrun, hlost⟩

/-- The template is not found. The file beside the directory of the project stays. -/
theorem create_unknownTemplate_stray :
    ∃ session' : Session,
      (reportProblems (create bareSurroundings strayProject)).run notesSession =
        .ok 1 { session' with
          output := session'.output ++ Terminal.error
            ("Template not found: " ++ Path.toString ⟨.root, ["templates", "template-svelte"]⟩) } ∧
      session'.workspace.files.get? ["work", "todo.txt"] = some (.file "more".toByteArray) := by
  obtain ⟨session', hrun, -⟩ := exists_run_strayProject
  obtain ⟨hreported, hkept⟩ := create_unknownTemplate notesSession_rooted hrun
  refine ⟨session', hreported, ?_⟩
  have hget : notesSession.workspace.files.get? ["work", "todo.txt"] =
      some (.file "more".toByteArray) := rfl
  rcases hkept _ _ hget with hthere | ⟨-, s, identifier, d, n, rest, hsettles, hfind, hl, -⟩
  · exact hthere
  · -- the file does not lie in the directory of the project
    obtain ⟨rfl, -⟩ := settles_of_given rfl rfl hsettles
    have happ : notesSession.workspace.files.find strayProject.directory =
        .ok (["work", "app"], .directory) := by decide
    obtain rfl := eq_of_find happ hfind
    simp at hl

/-- A run that finds no template may have taken away what was there. -/
theorem not_keeps_of_create_unknownTemplate :
    ¬ ∀ (around : Surroundings) (settings : Settings) (session session' : Session) (name : String)
      (path : Path), session.workspace.files.Rooted →
      (create around settings).run session =
        .error (.problem (.unknownTemplate name path)) session' →
      Keeps session.workspace.files session'.workspace.files := by
  intro hkeeps
  obtain ⟨session', hrun, hlost⟩ := exists_run_strayProject
  have hthere := hkeeps _ _ _ _ _ _ notesSession_rooted hrun ["work", "app", "notes.txt"] _ rfl
  rw [hlost] at hthere
  cases hthere

end Scaffold.CommandLine
