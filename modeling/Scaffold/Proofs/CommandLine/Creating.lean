import Mathlib.Tactic.Lemma
import Scaffold.CommandLine.Run
import Scaffold.Proofs.Tree.Lookup
import Scaffold.Proofs.Tree.Preparing

/-!
# How a project comes to be made

* `Act.Idle`: a step that changes no files and takes no answer about overwriting.
* `Settles`: the settings and the identifier with which a run goes on, once the user has been asked
  for what is missing.
* `MayChange`: why a run may change the directory of the project.
* `Course`: the ways in which a run ends, as far as the files are concerned. `course_create` says that
  there are no others.
* `ends_writeProject`: the template of the project is rendered, if there is one.
-/

namespace Scaffold.CommandLine

open Scaffold.Tree FileSystem Console Terminal

variable {around : Surroundings} {settings s : Settings} {identifier : String}
  {session session' session'' : Session}

/-! ## Steps that change no files -/

/-- A stop that is not due to an unknown template. -/
def Stop.Known (stop : Stop) : Prop :=
  ∀ name path, stop ≠ .problem (.unknownTemplate name path)

/-- A known problem of the files is a known reason to stop. -/
lemma Stop.known_problem {problem : Problem} (h : problem.Known) : (Stop.problem problem).Known :=
  fun name path heq => h name path (Stop.problem.inj heq)

/-- The files and the answer about overwriting are the same. -/
structure Untouched (session session' : Session) : Prop where
  workspace : session'.workspace = session.workspace
  consent : session'.consent = session.consent

/-- A session leaves its own files as they are. -/
lemma Untouched.refl (session : Session) : Untouched session session :=
  ⟨rfl, rfl⟩

/-- Two steps that leave the files as they are do so together. -/
lemma Untouched.trans (first : Untouched session session') (second : Untouched session' session'') :
    Untouched session session'' :=
  ⟨second.workspace.trans first.workspace, second.consent.trans first.consent⟩

namespace Act

variable {α β : Type}

/-- A step that changes no files and takes no answer about overwriting, whether it goes on or
stops. -/
def Idle (x : Act α) : Prop :=
  ∀ session, Ends x session (fun _ session' => Untouched session session')
    (fun stop session' => Untouched session session' ∧ stop.Known)

/-- Steps in a row are idle if each of them is. -/
lemma Idle.bind {x : Act α} {f : α → Act β} (hx : Idle x) (hf : ∀ a, Idle (f a)) :
    Idle (x >>= f) := by
  intro session
  refine Ends.bind ((hx session).mono (fun a session' h => ?_) fun _ _ hstop => hstop)
  exact (hf a session').mono (fun _ _ h' => h.trans h') fun _ _ h' => ⟨h.trans h'.1, h'.2⟩

/-- Nothing is done. -/
lemma idle_pure (a : α) : Idle (pure a) :=
  fun session => ends_pure (.refl session)

/-- Stopping touches no files. -/
lemma idle_throw {stop : Stop} (h : stop.Known) : Idle (throw stop : Act α) :=
  fun session => ends_throw ⟨.refl session, h⟩

/-- Printing touches no files. -/
lemma idle_print (text : String) : Idle (print text) :=
  fun _ => ends_modify ⟨rfl, rfl⟩

/-- Marked text that is no text of its own stops the command, and touches no files. -/
lemma idle_marked (x : Except MarkupError α) : Idle (marked x) := by
  cases x with
  | ok a => exact idle_pure a
  | error e => exact idle_throw fun name path => by simp

/-- Asking touches no files. -/
lemma idle_ask (question : List String → Except MarkupError (Reply α)) : Idle (ask question) := by
  intro session
  refine Ends.bind (ends_get ?_)
  refine Ends.bind ((idle_marked _ session).mono (fun reply session' h => ?_) fun _ _ hstop => hstop)
  refine Ends.bind (ends_modify ?_)
  have hsame : Untouched session
      { session' with output := session'.output ++ reply.printed, input := reply.rest } :=
    h.trans ⟨rfl, rfl⟩
  cases reply.answer with
  | some a => exact ends_pure hsame
  | none => exact ends_throw ⟨hsame, fun name path => by simp⟩

/-- Work on the files ends in a session as it does in the workspace of that session. -/
lemma ends_work {w : Work α} {Q : α → Session → Prop} {R : Stop → Session → Prop}
    (h : Ends w session.workspace (fun a ws => Q a { session with workspace := ws })
      fun problem ws => R (.problem problem) { session with workspace := ws }) :
    Ends (work w) session Q R := by
  cases hrun : w session.workspace with
  | ok a ws =>
      have hwork : (work w).run session = .ok a { session with workspace := ws } := by
        simp [work, EStateM.run, hrun]
      exact ends_of_run_ok hwork (h.of_run_ok hrun)
  | error problem ws =>
      have hwork :
          (work w).run session = .error (.problem problem) { session with workspace := ws } := by
        simp [work, EStateM.run, hrun]
      exact ends_of_run_error hwork (h.of_run_error hrun)

/-- Another program may read from the input and print, but that is all. -/
lemma idle_launch (launcher : Subprocess.Launcher) (c : Subprocess.Command) : Idle (launch launcher c) := by
  intro session
  refine Ends.bind (ends_get (Ends.bind (ends_modify ?_)))
  cases c.report (launcher session.workspace.files c session.input).ending with
  | ok report => exact ends_pure ⟨rfl, rfl⟩
  | error reason => exact ends_throw ⟨⟨rfl, rfl⟩, fun name path => by simp⟩

/-- A question about the files changes none. -/
lemma idle_work_ask {onFailure : Failure → Problem} (h : ∀ f, (onFailure f).Known)
    (question : FileSystem → Except Failure α) : Idle (work (Work.ask onFailure question)) := by
  intro session
  exact ends_work (Work.ends_ask (fun _ _ => .refl session)
    fun f _ => ⟨.refl session, Stop.known_problem (h f)⟩)

end Act

open Act

/-! ## What is asked first -/

section Asking

variable [Terminal]

/-- Settling the name touches no files. -/
lemma idle_settleName (settings : Settings) : Idle (settleName settings) := by
  unfold settleName
  cases settings.projectName with
  | some name => exact idle_pure _
  | none =>
      cases settings.yes with
      | true => exact Idle.bind (idle_pure _) fun _ => idle_pure _
      | false => exact Idle.bind (idle_ask _) fun _ => idle_pure _

/-- Settling the identifier touches no files. -/
lemma idle_settleIdentifier (around : Surroundings) (s : Settings) :
    Idle (settleIdentifier around s) := by
  unfold settleIdentifier
  cases s.identifier with
  | some identifier => exact idle_pure _
  | none =>
      cases s.yes with
      | true => exact idle_pure _
      | false => exact idle_ask _

/-- The settings and the identifier with which a run goes on, once the user has been asked for what
is missing. -/
def Settles (around : Surroundings) (settings : Settings) (session : Session) (s : Settings)
    (identifier : String) : Prop :=
  ∃ session₁ session₂, (settleName settings).run session = .ok s session₁ ∧
    (settleIdentifier around s).run session₁ = .ok identifier session₂

/-- There is one way to settle what is missing. -/
lemma Settles.unique {s' : Settings} {identifier' : String}
    (h : Settles around settings session s identifier)
    (h' : Settles around settings session s' identifier') : s = s' ∧ identifier = identifier' := by
  obtain ⟨session₁, session₂, hname, hidentifier⟩ := h
  obtain ⟨session₁', session₂', hname', hidentifier'⟩ := h'
  obtain ⟨rfl, rfl⟩ := EStateM.Result.ok.inj (hname.symm.trans hname')
  exact ⟨rfl, (EStateM.Result.ok.inj (hidentifier.symm.trans hidentifier')).1⟩

/-- Only the name of the project is settled in the settings. -/
lemma force_of_settles (h : Settles around settings session s identifier) :
    s.force = settings.force := by
  obtain ⟨session₁, -, hname, -⟩ := h
  have hends : Ends (settleName settings) session (fun s _ => s.force = settings.force)
      fun _ _ => True := by
    unfold settleName
    cases settings.projectName with
    | some name => exact ends_pure rfl
    | none =>
        cases settings.yes with
        | true => exact Ends.bind (ends_pure (ends_pure rfl))
        | false => exact Ends.bind ⟨fun _ => ends_pure rfl, fun _ => trivial⟩
  exact hends.of_run_ok hname

/-- Where the settings have a name and an identifier, nothing is left to settle. -/
lemma settles_of_given {name given : String} (hname : settings.projectName = some name)
    (hidentifier : settings.identifier = some given)
    (h : Settles around settings session s identifier) : s = settings ∧ identifier = given := by
  obtain ⟨session₁, session₂, hfirst, hsecond⟩ := h
  have hsettings : settleName settings = pure settings := by
    simp only [settleName, hname]
  rw [hsettings] at hfirst
  obtain ⟨rfl, rfl⟩ := EStateM.Result.ok.inj hfirst
  have hgiven : settleIdentifier around settings = pure given := by
    simp only [settleIdentifier, hidentifier]
  rw [hgiven] at hsecond
  obtain ⟨rfl, rfl⟩ := EStateM.Result.ok.inj hsecond
  exact ⟨rfl, rfl⟩

end Asking

/-! ## Whether the directory may be changed -/

/-- Why a run may change the directory of the project: there is nothing in it, the settings allow it,
or the user does. -/
def MayChange (s : Settings) (session session' : Session) : Prop :=
  Vacant session.workspace.files s.directory ∨ s.force = true ∨ session'.consent = some true

/-- What comes after leaves the change as it is. -/
lemma MayChange.of_untouched (h : MayChange s session session') (hsame : Untouched session' session'') :
    MayChange s session session'' := by
  rcases h with hvacant | hforce | hconsent
  · exact .inl hvacant
  · exact .inr (.inl hforce)
  · exact .inr (.inr (hsame.consent.trans hconsent))

/-- Before the user is asked, nothing is changed, and there is no need to ask only if there is nothing
in the directory or the settings allow what is to come. -/
lemma ends_overwriting (s : Settings) (w : Workspace) :
    Ends (overwriting s) w
      (fun verdict w' => w' = w ∧ (verdict = .nothing → Vacant w.files s.directory) ∧
        (verdict = .forced → s.force = true))
      (fun problem w' => w' = w ∧ problem.Known) := by
  refine Ends.bind (Work.ends_ask (fun isThere hexists => ?_)
    fun f _ => ⟨rfl, Problem.known_unanswered f⟩)
  cases isThere with
  | false =>
      simp only [Bool.false_eq_true, if_false]
      exact ends_pure ⟨rfl, fun _ => .inl hexists, by simp⟩
  | true =>
      simp only [if_true]
      refine Ends.bind (Work.ends_ask (fun names hlist => ends_pure ⟨rfl, ?_⟩)
        fun f _ => ⟨rfl, Problem.known_ofFailure _ _ f⟩)
      by_cases hnames : names = []
      · subst hnames
        exact ⟨fun _ => .inr hlist, by simp⟩
      · cases s.force with
        | true => exact ⟨by simp [hnames], fun _ => rfl⟩
        | false => cases s.yes <;> simp [hnames]

section Talking

variable [Terminal]

/-- The user is asked if need be, and nothing is changed. -/
lemma ends_mayOverwrite (s : Settings) (session : Session) :
    Ends (mayOverwrite s) session
      (fun allowed session' => session'.workspace = session.workspace ∧
        (allowed = true → MayChange s session session'))
      (fun stop session' => session'.workspace = session.workspace ∧ stop.Known) := by
  refine Ends.bind (ends_work ((ends_overwriting s session.workspace).mono ?_ ?_))
  · rintro verdict w' ⟨rfl, hnothing, hforced⟩
    cases verdict with
    | nothing => exact ends_pure ⟨rfl, fun _ => .inl (hnothing rfl)⟩
    | forced => exact ends_pure ⟨rfl, fun _ => .inr (.inl (hforced rfl))⟩
    | refused => exact ends_pure ⟨rfl, by simp⟩
    | «open» =>
        refine Ends.bind ((idle_ask _ session).mono (fun answer session' h => ?_)
          fun stop session' h => ⟨h.1.workspace, h.2⟩)
        refine Ends.bind (ends_modify (ends_pure ⟨h.workspace, fun hanswer => ?_⟩))
        exact .inr (.inr (by rw [hanswer]))
  · rintro problem w' ⟨rfl, hknown⟩
    exact ⟨rfl, Stop.known_problem hknown⟩

/-! ## What is done last -/

/-- Bootstrapping is taken to touch no files. -/
lemma idle_bootstrap (around : Surroundings) (s : Settings) (project : Path) :
    Idle (bootstrap around s project) := by
  unfold bootstrap
  cases hrun : s.runBootstrap && around.isMac with
  | false => exact idle_pure _
  | true =>
      refine Idle.bind (idle_work_ask Problem.known_unanswered _) fun isThere => ?_
      cases isThere with
      | false => exact idle_pure _
      | true =>
          refine Idle.bind (idle_print _) fun _ => Idle.bind (idle_launch _ _) fun report => ?_
          by_cases hstart : report.code = -1
          · simp only [if_pos hstart]
            exact Idle.bind (idle_marked _) fun _ => Idle.bind (idle_print _) fun _ => idle_pure _
          · simp only [if_neg hstart]
            by_cases hfails : report.code ≠ 0
            · simp only [if_pos hfails]
              exact Idle.bind (idle_print _) fun _ => idle_pure _
            · simp only [if_neg hfails]
              exact idle_pure _

/-- Saying what comes next touches no files. -/
lemma idle_nextSteps (around : Surroundings) (s : Settings) (bootstrapped : Bool) :
    Idle (nextSteps around s bootstrapped) := by
  have hmissing : Idle (reportMissing around) := by
    refine Idle.bind (idle_launch _ _) fun report => ?_
    cases report.succeeded with
    | true => exact Idle.bind (idle_pure _) fun _ => idle_pure _
    | false => exact Idle.bind (idle_print _) fun _ => idle_pure _
  refine Idle.bind (idle_print _) fun _ => Idle.bind hmissing fun missing => ?_
  cases missing with
  | true => exact idle_pure _
  | false => exact idle_print _

/-! ## The course of a run -/

variable [Host]

/-- The ways in which a run that makes a project ends, as far as the files are concerned. -/
inductive Course (around : Surroundings) (settings : Settings) (session session' : Session) :
    Except Stop Nat → Prop
  /-- The run stops before anything is changed. -/
  | stopped {stop : Stop} :
    session'.workspace = session.workspace → stop.Known →
      Course around settings session session' (.error stop)
  /-- The directory may not be changed. -/
  | refused :
    session'.workspace = session.workspace → Course around settings session session' (.ok 1)
  /-- The directory cannot be prepared. -/
  | unprepared {s : Settings} {identifier : String} {problem : Problem} :
    Settles around settings session s identifier → MayChange s session session' →
      (Work.prepareTarget s.directory).run session.workspace =
        .error problem session'.workspace →
      Course around settings session session' (.error (.problem problem))
  /-- The bindings cannot be told. -/
  | untold {s : Settings} {identifier : String} {stop : Stop} :
    Settles around settings session s identifier → MayChange s session session' →
      (Work.prepareTarget s.directory).run session.workspace = .ok () session'.workspace →
      stop.Known → Course around settings session session' (.error stop)
  /-- The template cannot be rendered. -/
  | unwritten {s : Settings} {identifier : String} {w : Workspace} {problem : Problem} :
    Settles around settings session s identifier → MayChange s session session' →
      (Work.prepareTarget s.directory).run session.workspace = .ok () w →
      (writeProject around s identifier).run w = .error problem session'.workspace →
      Course around settings session session' (.error (.problem problem))
  /-- The template has been rendered. -/
  | written {s : Settings} {identifier : String} {w : Workspace} {outcome : Except Stop Nat} :
    Settles around settings session s identifier → MayChange s session session' →
      (Work.prepareTarget s.directory).run session.workspace = .ok () w →
      (writeProject around s identifier).run w = .ok () session'.workspace →
      (outcome = .ok 0 ∨ ∃ stop, outcome = .error stop ∧ stop.Known) →
      Course around settings session session' outcome

/-- Once the template has been rendered, the files stay as they are. -/
lemma ends_once_written (hsettles : Settles around settings session s identifier)
    {w : Workspace} {session₁ : Session} (hmay : MayChange s session session₁)
    (hprepare : (Work.prepareTarget s.directory).run session.workspace = .ok () w)
    (hwrite : (writeProject around s identifier).run w = .ok () session₁.workspace) :
    Ends (do
        let bootstrapped ← bootstrap around s s.directory
        nextSteps around s bootstrapped
        return 0) session₁
      (fun code session' => Course around settings session session' (.ok code))
      (fun stop session' => Course around settings session session' (.error stop)) := by
  have hwritten : ∀ session' outcome, Untouched session₁ session' →
      (outcome = .ok 0 ∨ ∃ stop, outcome = .error stop ∧ stop.Known) →
      Course around settings session session' outcome := by
    intro session' outcome hsame houtcome
    refine .written hsettles (hmay.of_untouched hsame) hprepare ?_ houtcome
    rw [hwrite, hsame.workspace]
  refine Ends.bind ((idle_bootstrap around s s.directory session₁).mono ?_ ?_)
  · intro bootstrapped session₂ hsame
    refine Ends.bind ((idle_nextSteps around s _ session₂).mono (fun _ session' hsame' => ?_) ?_)
    · exact ends_pure (hwritten _ _ (hsame.trans hsame') (.inl rfl))
    · rintro stop session' ⟨hsame', hknown⟩
      exact hwritten _ _ (hsame.trans hsame') (.inr ⟨stop, rfl, hknown⟩)
  · rintro stop session' ⟨hsame, hknown⟩
    exact hwritten _ _ hsame (.inr ⟨stop, rfl, hknown⟩)

/-- Once the bindings have been told, the template is rendered. -/
lemma ends_once_told (hsettles : Settles around settings session s identifier)
    {session₁ : Session} (hmay : MayChange s session session₁)
    (hprepare : (Work.prepareTarget s.directory).run session.workspace = .ok () session₁.workspace) :
    Ends (do
        Act.work (writeProject around s identifier)
        let bootstrapped ← bootstrap around s s.directory
        nextSteps around s bootstrapped
        return 0) session₁
      (fun code session' => Course around settings session session' (.ok code))
      (fun stop session' => Course around settings session session' (.error stop)) := by
  refine Ends.bind (ends_work ((ends_run _ _).mono (fun _ w hwrite => ?_) fun _ w hwrite => ?_))
  · exact ends_once_written hsettles hmay hprepare hwrite
  · exact .unwritten hsettles hmay hprepare hwrite

/-- Once the directory has been prepared, the bindings are told if that is wanted. -/
lemma ends_once_prepared (hsettles : Settles around settings session s identifier)
    {session₁ : Session} (hmay : MayChange s session session₁)
    (hprepare : (Work.prepareTarget s.directory).run session.workspace = .ok () session₁.workspace) :
    Ends (do
        if s.verbose then
          Act.print (← Act.marked (summary "Template data" (s.bindings identifier).entries))
        Act.work (writeProject around s identifier)
        let bootstrapped ← bootstrap around s s.directory
        nextSteps around s bootstrapped
        return 0) session₁
      (fun code session' => Course around settings session session' (.ok code))
      (fun stop session' => Course around settings session session' (.error stop)) := by
  have huntold : ∀ session' stop, Untouched session₁ session' → stop.Known →
      Course around settings session session' (.error stop) := by
    intro session' stop hsame hknown
    refine .untold hsettles (hmay.of_untouched hsame) ?_ hknown
    rw [hprepare, hsame.workspace]
  cases s.verbose with
  | false => exact ends_once_told hsettles hmay hprepare
  | true =>
      refine Ends.bind ((idle_marked _ session₁).mono (fun text session₂ hsame₂ => ?_) ?_)
      · refine Ends.bind ((idle_print text session₂).mono (fun _ session₃ hsame₃ => ?_) ?_)
        · have hsame := hsame₂.trans hsame₃
          refine ends_once_told hsettles (hmay.of_untouched hsame) ?_
          rw [hprepare, hsame.workspace]
        · rintro stop session' ⟨hsame₃, hknown⟩
          exact huntold session' stop (hsame₂.trans hsame₃) hknown
      · rintro stop session' ⟨hsame, hknown⟩
        exact huntold session' stop hsame hknown

/-- A run that makes a project ends in one of the ways of `Course`. -/
theorem course_create (around : Surroundings) (settings : Settings) (session : Session) :
    Ends (create around settings) session
      (fun code session' => Course around settings session session' (.ok code))
      (fun stop session' => Course around settings session session' (.error stop)) := by
  unfold create
  refine Ends.bind (((ends_run _ _).and (idle_settleName settings session)).mono ?_
    fun _ _ h => .stopped h.2.1.workspace h.2.2)
  rintro s session₁ ⟨hname, hsame₁⟩
  refine Ends.bind (((ends_run _ _).and (idle_settleIdentifier around s session₁)).mono ?_
    fun _ _ h => .stopped (hsame₁.trans h.2.1).workspace h.2.2)
  rintro identifier session₂ ⟨hidentifier, hsame₂⟩
  have hsettles : Settles around settings session s identifier :=
    ⟨session₁, session₂, hname, hidentifier⟩
  have hsame := (hsame₁.trans hsame₂).workspace
  refine Ends.bind ((ends_mayOverwrite s session₂).mono ?_
    fun _ _ h => .stopped (h.1.trans hsame) h.2)
  rintro allowed session₃ ⟨hfiles, hallowed⟩
  rw [hsame] at hfiles
  cases allowed with
  | false =>
      simp only [Bool.false_eq_true, if_false]
      exact Ends.bind (ends_modify (ends_pure (.refused hfiles)))
  | true =>
      have hmay : MayChange s session session₃ := by
        have hmay₂ := hallowed rfl
        rwa [MayChange, hsame] at hmay₂
      simp only [if_true]
      refine Ends.bind (ends_work ?_)
      rw [hfiles]
      refine (ends_run _ _).mono (fun _ w hprepare => ?_) fun problem w hprepare => ?_
      · exact ends_once_prepared hsettles hmay hprepare
      · exact .unprepared hsettles hmay hprepare

end Talking

/-! ## Rendering the template of a project -/

/-- The path of the template that a project is made from. -/
def templatePath (around : Surroundings) (s : Settings) : Path :=
  Catalog.pathOf (s.templatesDirectory.getD around.bundledTemplates) s.template

/-- The bindings and conventions under which a project is made. -/
def projectRenderer (s : Settings) (identifier : String) : Renderer :=
  { bindings := s.bindings identifier }

/-- The template of a project is rendered, if its path leads to a directory; otherwise nothing is
done. -/
theorem ends_writeProject [Host] {w : Workspace} {Q : FileSystem → Prop} {R : Problem → FileSystem → Prop}
    (hrender : ∀ src, w.files.find (templatePath around s) = .ok (src, .directory) →
      Ends ((projectRenderer s identifier).renderTree (templatePath around s) s.directory)
        { w with events := w.events ++ [.usingTemplate s.template s.directory] }
        (fun _ w' => Q w'.files) fun problem w' => R problem w'.files)
    (hunknown : Host.isDirectory w.files (templatePath around s) = .ok false →
      R (.unknownTemplate s.template (templatePath around s)) w.files)
    (hunanswered : ∀ f, Host.isDirectory w.files (templatePath around s) = .error f →
      R (.unanswered f) w.files) :
    Ends (writeProject around s identifier) w (fun _ w' => Q w'.files)
      fun problem w' => R problem w'.files := by
  unfold writeProject
  refine Ends.bind (ends_renderTemplate (fun src hfind => ?_) hunknown hunanswered)
  exact (hrender src hfind).mono (fun _ _ hQ => Work.ends_note hQ) fun _ _ hR => hR

/-- Surroundings without bundled templates. -/
def bareSurroundings : Surroundings where
  bundledTemplates := ⟨.root, ["templates"]⟩

end Scaffold.CommandLine
