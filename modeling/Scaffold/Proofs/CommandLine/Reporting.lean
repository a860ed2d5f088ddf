import Mathlib.Tactic.Lemma
import Scaffold.Proofs.CommandLine.UnknownTemplate
import Scaffold.Proofs.Tree.Reporting

/-!
# What the program says of a rendering that fails

A problem that is to be expected is reported, with the exit code one. Any other problem ends the program
as it is.

* `ends_reportProblems`: how a step ends whose problems are reported.
* `problems_are_accounted_for`: which problems of a rendering are not reported, each for a reason that is
  named.
* `problems_that_are_not_reported`: all of them do come up.
-/

namespace Scaffold.CommandLine

open Scaffold.Tree FileSystem

variable {around : Surroundings} {s : Settings} {session : Session} {act : Act Nat}
  {Q : Nat → Session → Prop} {R : Stop → Session → Prop}

section Reporting

variable [Terminal]

/-- A step that ends with an exit code is left as it is. -/
lemma run_reportProblems_of_ok {code : Nat} {session' : Session}
    (hrun : act.run session = .ok code session') :
    (reportProblems act).run session = .ok code session' := by
  simp only [EStateM.run] at hrun ⊢
  simp only [reportProblems, tryCatch, tryCatchThe, MonadExceptOf.tryCatch, EStateM.tryCatch, bind,
    EStateM.bind, hrun]
  rfl

/-- A stop that is no problem to be expected stops the program as it is. -/
lemma run_reportProblems_of_not_expected {stop : Stop} {session' : Session}
    (hrun : act.run session = .error stop session')
    (hnot : ∀ problem, stop = .problem problem → problem.isExpected = false) :
    (reportProblems act).run session = .error stop session' := by
  simp only [EStateM.run] at hrun ⊢
  simp only [reportProblems, tryCatch, tryCatchThe, MonadExceptOf.tryCatch, EStateM.tryCatch, bind,
    EStateM.bind, hrun, EStateM.Backtrackable.restore]
  cases stop with
  | problem problem =>
      simp only [hnot problem rfl, Bool.false_eq_true, if_false]
      rfl
  | endOfInput => rfl
  | misfits misfits => rfl
  | markup e => rfl
  | refusal reason => rfl

/-- A step whose problems are reported ends as the step does, or with the exit code one. -/
lemma ends_reportProblems
    (h : Ends act session Q fun stop session' =>
      (∃ problem, stop = .problem problem ∧ problem.isExpected = true ∧
        Q 1 { session' with output := session'.output ++ Terminal.error problem.message }) ∨
      (∀ problem, stop = .problem problem → problem.isExpected = false) ∧ R stop session') :
    Ends (reportProblems act) session Q R := by
  cases hrun : act.run session with
  | ok code session' =>
      exact ends_of_run_ok (run_reportProblems_of_ok hrun) (h.of_run_ok hrun)
  | error stop session' =>
      rcases h.of_run_error hrun with ⟨problem, rfl, hexpected, hQ⟩ | ⟨hnot, hR⟩
      · exact ends_of_run_ok (run_reportProblems hrun hexpected) hQ
      · exact ends_of_run_error (run_reportProblems_of_not_expected hrun hnot) hR

/-- **Which problems of a rendering are not reported.** On every host, a rendering of a tree, or of a
template, ends with a problem that is reported, or for one of four reasons: a path holds the null character,
which only happens if there is one in what the rendering starts from; the host says that something has no
encoding; the host says that the calls lie too deep; or the host does not tell whether the tree itself or an
entry is a directory. When a project is made from a template, all other problems lead to the exit code
one. -/
theorem problems_are_accounted_for [Host] (r : Renderer) (root output templates : Path) (name : String)
    (w : Workspace) (around : Surroundings) (s : Settings) (identifier : String)
    (session : Session) :
    Ends (r.renderTree root output) w (fun _ _ => True) (Accounts (Clean r output w.files) root) ∧
    Ends (renderTemplate r templates name output) w (fun _ _ => True)
      (Accounts (Clean r output w.files) (Catalog.pathOf templates name)) ∧
    Ends (reportProblems (do Act.work (writeProject around s identifier); return 0)) session
      (fun code _ => code = 0 ∨ code = 1)
      (fun stop session' => ∃ problem, stop = .problem problem ∧ problem.isExpected = false ∧
        Accounts (Clean (projectRenderer s identifier) s.directory session.workspace.files)
          (templatePath around s) problem session'.workspace) := by
  have haccounts : ∀ {α : Type} {x : Work α} {Q : α → Prop} {root : Path} {fs : FileSystem}
      {r : Renderer} {output : Path} {w : Workspace}, w.files = fs →
      Work.Accountable (Clean r output fs) root x Q →
      Ends x w (fun _ _ => True) (Accounts (Clean r output fs) root) := by
    intro α x Q root fs r output w hfiles hx
    have hclean : Clean r output fs → w.files.NullFree := fun h => hfiles ▸ h.files
    exact (hx w hclean).mono (fun _ _ _ => trivial) fun _ _ h => h
  refine ⟨?_, ?_, ?_⟩
  · exact haccounts rfl (Renderer.accountable_renderTree (fun h => h.renderer) fun h => h.output)
  · exact haccounts rfl (Renderer.accountable_renderTemplate (fun h => h.renderer) fun h => h.output)
  · have hwrite : Work.Accountable
        (Clean (projectRenderer s identifier) s.directory session.workspace.files)
        (templatePath around s) (writeProject around s identifier) fun _ => True :=
      (Renderer.accountable_renderTemplate (fun h => h.renderer) fun h => h.output).bind
        fun _ _ => Work.accountable_note _
    refine ends_reportProblems (Ends.bind (Act.ends_work ?_))
    refine (haccounts rfl hwrite).mono (fun _ _ _ => ends_pure (.inl rfl)) fun problem w' h => ?_
    cases hexpected : problem.isExpected with
    | true => exact .inl ⟨problem, rfl, hexpected, .inr rfl⟩
    | false =>
        refine .inr ⟨fun problem' heq => ?_, problem, rfl, hexpected, h⟩
        rw [← Stop.problem.inj heq, hexpected]

end Reporting

/-! ## Problems that come up -/

/-- Looking for a template whose name is too long ends with a problem that is not reported. -/
lemma ends_renderTemplate_of_long_name {r : Renderer} {root output : Path} {name : String}
    {w : Workspace} {l : Location} (hroot : w.files.find root = .ok (l, .directory))
    (hname : IsPlainName (Catalog.marker ++ name))
    (hlong : nameLimit < (Catalog.marker ++ name).utf8ByteSize) :
    Ends (renderTemplate r root name output) w (fun _ _ => False) fun problem w' =>
      problem = .unanswered (.system .nameTooLong (Catalog.pathOf root name)) ∧ w' = w := by
  have hpath : Catalog.pathOf root name = root.child (Catalog.marker ++ name) :=
    Path.join_ofString root hname
  have hfits : ¬ Fits (root.child (Catalog.marker ++ name)) := by
    rintro ⟨-, hsize⟩
    rw [Path.name_child] at hsize
    omega
  have hdir := isDirectory_child_of_not_fits hroot hname hfits
  rw [← hpath] at hdir
  refine ends_renderTemplate (fun src hfind => ?_) (fun hnot => ?_) fun f hf => ?_
  · rw [isDirectory_of_find hfind] at hdir
    cases hdir
  · rw [Host.isDirectory_ample, hdir] at hnot
    cases hnot
  · rw [Host.isDirectory_ample, hdir] at hf
    exact ⟨by rw [Except.error.inj hf], rfl⟩

/-- A name of so many letters. -/
def letters (k : Nat) : String :=
  String.ofList (List.replicate k 'a')

/-- So many letters are so many bytes. -/
lemma utf8ByteSize_letters (k : Nat) : (letters k).utf8ByteSize = k := by
  induction k with
  | zero => rfl
  | succ k ih =>
      have hsucc : letters (k + 1) = "a" ++ letters k := by
        rw [← String.toList_inj]
        simp [letters, List.replicate_succ]
      have hone : "a".utf8ByteSize = 1 := by decide
      rw [hsucc, String.utf8ByteSize_append, ih, hone]
      omega

/-- Behind the marker they are the name of an entry. -/
lemma isPlainName_letters (k : Nat) : IsPlainName (Catalog.marker ++ letters k) := by
  have hmarker : Catalog.marker.toList =
      ['t', 'e', 'm', 'p', 'l', 'a', 't', 'e', '-'] := by decide
  have htext : (Catalog.marker ++ letters k).toList =
      ['t', 'e', 'm', 'p', 'l', 'a', 't', 'e', '-'] ++ List.replicate k 'a' := by
    rw [String.toList_append, hmarker, letters, String.toList_ofList]
  have hne : ∀ s : String, s.toList.head? ≠ some 't' → Catalog.marker ++ letters k ≠ s := by
    rintro s hs rfl
    rw [htext] at hs
    exact hs rfl
  refine ⟨hne "" (by decide), hne "." (by decide), hne ".." (by decide), ?_, ?_⟩
  · rw [htext]
    simp [List.mem_replicate]
  · rw [htext]
    simp [List.mem_replicate]

/-- A directory with one file in it, whose name is that of a variable. -/
def namedFiles : Workspace where
  files.entries := [(["t"], .directory), (["t", "\x7b% n %\x7d"], .file "text".toByteArray),
    (["o"], .directory)]

/-- Bindings that give the variable a null character. -/
def nullRenderer : Renderer where
  bindings := ⟨[("n", "\x00")]⟩

/-- A directory with one template file in it. -/
def templateFiles : Workspace where
  files.entries := [(["t"], .directory), (["t", "a.lte"], .file "text".toByteArray), (["o"], .directory)]

/-- A host on which the calls of a rendering lie too deep when a directory is listed. -/
@[reducible]
def shallow : Host :=
  Host.refusing .tooDeep (fun call _ => call = .list) fun _ => rfl

/-- A host on which no text has an encoding. -/
@[reducible]
def speechless : Host :=
  { Host.ample with unencodable := fun _ => some "surrogates not allowed" }

/-- All problems that are not reported come up: when a template with a name that is too long is looked for;
when a file would get a name with a null character; when an entry lies in a directory that may not be
searched; when the calls lie too deep; and when a text has no encoding. -/
theorem problems_that_are_not_reported :
    Ends (renderTemplate {} ⟨.root, ["t"]⟩ (letters 300) ⟨.root, ["o"]⟩) namedFiles
      (fun _ _ => False) (fun problem _ => problem.isExpected = false ∧
        problem = .unanswered
          (.system .nameTooLong (Catalog.pathOf ⟨.root, ["t"]⟩ (letters 300)))) ∧
    Ends (nullRenderer.renderTree ⟨.root, ["t"]⟩ ⟨.root, ["o"]⟩) namedFiles
      (fun _ _ => False) (fun problem _ => problem.isExpected = false ∧
        problem = .unanswered .nullCharacter) ∧
    Ends (@Renderer.renderTree (Host.unsearchable ⟨.root, ["t"]⟩) {} ⟨.root, ["t"]⟩ ⟨.root, ["o"]⟩)
      templateFiles
      (fun _ _ => False) (fun problem _ => problem.isExpected = false ∧
        problem = .unanswered (.system .permissionDenied ⟨.root, ["t", "a.lte"]⟩)) ∧
    Ends (@Renderer.renderTree shallow {} ⟨.root, ["t"]⟩ ⟨.root, ["o"]⟩) templateFiles
      (fun _ _ => False) (fun problem _ => problem.isExpected = false ∧
        problem = .unanswered .tooDeep) ∧
    Ends (@Renderer.renderTree speechless {} ⟨.root, ["t"]⟩ ⟨.root, ["o"]⟩) templateFiles
      (fun _ _ => False) fun problem _ => problem.isExpected = false ∧
        problem = .unanswered (.unencodable "surrogates not allowed") := by
  refine ⟨?_, by decide +kernel, by decide +kernel, by decide, by decide +kernel⟩
  have hroot : namedFiles.files.find ⟨.root, ["t"]⟩ = .ok (["t"], .directory) := by
    decide
  have hlong : nameLimit < (Catalog.marker ++ letters 300).utf8ByteSize := by
    rw [String.utf8ByteSize_append, utf8ByteSize_letters, nameLimit]
    omega
  refine (ends_renderTemplate_of_long_name hroot (isPlainName_letters 300) hlong).mono
    (fun _ _ h => h) fun problem w' h => ?_
  obtain ⟨rfl, -⟩ := h
  exact ⟨rfl, rfl⟩

end Scaffold.CommandLine
