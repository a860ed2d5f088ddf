import Mathlib.Logic.Basic
import Mathlib.Tactic.Lemma
import Scaffold.CommandLine.Guidance
import Scaffold.Settings.Basic

/-!
# Projects in the working directory

A project whose name is a single dot goes into the working directory, and is named after it. Other
texts lead to that directory as well, and a project that is called by one of them goes there without
being named after it.

* `Path.ofString_eq_here_iff`: the texts that write the directory where one is.
* `directory_eq_workingDirectory_iff`: a project goes into the working directory exactly if its name is
  the single dot, or disguises that directory.
* `isCurrentDirectory_iff_directory`: being known to go there and going there are the same exactly
  where the name is no disguise; the names and the steps follow what is known.
* `workingDirectory_in_disguise`: a project that goes there and is not known to.
-/

namespace Scaffold

namespace Path

variable {p q : Path} {s : String}

/-- A text writes the directory where one is: it does not start at the root, and between its slashes
there is nothing but single dots. -/
def WritesHere (s : String) : Prop :=
  s.toList.head? ≠ some '/' ∧ ∀ piece ∈ Text.splitOn '/' s, piece = "" ∨ piece = "."

instance (s : String) : Decidable (WritesHere s) :=
  inferInstanceAs (Decidable (_ ∧ _))

/-- A path without slashes in front starts here. -/
lemma anchorOf_eq_here_iff {k : Nat} : anchorOf k = .here ↔ k = 0 := by
  match k with
  | 0 => simp [anchorOf]
  | 1 => simp [anchorOf]
  | 2 => simp [anchorOf]
  | _ + 3 => simp [anchorOf]

/-- A path starts at the root exactly if its text starts with a slash. -/
lemma isAbsolute_ofString : (ofString s).isAbsolute = true ↔ s.toList.head? = some '/' := by
  have hhere : (ofString s).anchor = .here ↔ s.toList.head? ≠ some '/' := by
    rw [ofString, anchorOf_eq_here_iff, List.length_eq_zero_iff]
    cases s.toList with
    | nil => simp
    | cons c cs => by_cases hc : c = '/' <;> simp [hc]
  rw [isAbsolute, bne_iff_ne, ne_eq, hhere, not_not]

/-- Nothing is left of a text whose pieces are empty or single dots. -/
lemma names_ofString_eq_nil_iff :
    (ofString s).names = [] ↔ ∀ piece ∈ Text.splitOn '/' s, piece = "" ∨ piece = "." := by
  rw [ofString, namesOf, List.filter_eq_nil_iff]
  refine forall₂_congr fun piece _ => ?_
  rw [isName, Bool.and_eq_true, decide_eq_true_eq, decide_eq_true_eq, ← not_or, not_not]

/-- The texts that write the directory where one is. -/
lemma ofString_eq_here_iff : ofString s = ⟨.here, []⟩ ↔ WritesHere s := by
  have habs : (ofString s).anchor = .here ↔ ¬ (ofString s).isAbsolute = true := by
    simp [isAbsolute]
  rw [WritesHere, ne_eq, ← isAbsolute_ofString, ← names_ofString_eq_nil_iff, ← habs]
  constructor
  · intro h
    simp [h]
  · rintro ⟨hanchor, hnames⟩
    rw [← hanchor, ← hnames]

/-- A path taken from another one leads no further exactly if it stays where it is, or is that other
one from the root. -/
lemma join_eq_left_iff : p.join q = p ↔ q = ⟨.here, []⟩ ∨ q.isAbsolute = true ∧ q = p := by
  cases habs : q.isAbsolute with
  | true =>
      have hne : q ≠ ⟨.here, []⟩ := by
        rintro rfl
        cases habs
      rw [join_of_isAbsolute habs]
      simp [hne]
  | false =>
      have hanchor : q.anchor = .here := by simpa [isAbsolute] using habs
      rw [join_of_not_isAbsolute habs]
      obtain ⟨anchor, names⟩ := p
      obtain ⟨anchor', names'⟩ := q
      obtain rfl : anchor' = .here := hanchor
      simp

end Path

namespace Settings

open Project CommandLine

variable {s : Settings}

/-- The name of the project is not the single dot that stands for the working directory, and leads there
nevertheless: by dots and slashes, or as the path of that directory from the root. -/
def DisguisesHere (s : Settings) : Prop :=
  s.resolvedProjectName ≠ hereName ∧
    (Path.WritesHere s.resolvedProjectName ∨
      s.resolvedProjectName.toList.head? = some '/' ∧
        Path.ofString s.resolvedProjectName = s.workingDirectory)

instance (s : Settings) : Decidable s.DisguisesHere :=
  inferInstanceAs (Decidable (_ ∧ _))

/-- The working directory is meant by one name only. -/
lemma isCurrentDirectory_iff : s.isCurrentDirectory = true ↔ s.resolvedProjectName = hereName := by
  rw [isCurrentDirectory, beq_iff_eq]

/-- A project goes into the working directory exactly if its name is the single dot or a disguise. -/
lemma directory_eq_workingDirectory_iff :
    s.directory = s.workingDirectory ↔ s.isCurrentDirectory = true ∨ s.DisguisesHere := by
  cases hcurrent : s.isCurrentDirectory with
  | true => simp [directory, hcurrent]
  | false =>
      have hname : s.resolvedProjectName ≠ hereName := by
        rw [ne_eq, ← isCurrentDirectory_iff, hcurrent]
        simp
      rw [directory, hcurrent, if_neg (by simp), Path.join_eq_left_iff, Path.ofString_eq_here_iff,
        Path.isAbsolute_ofString, DisguisesHere]
      simp [hname]

/-- A name that is a disguise is not known to be that of the working directory. -/
lemma not_isCurrentDirectory_of_disguisesHere (h : s.DisguisesHere) : s.isCurrentDirectory = false := by
  rw [Bool.eq_false_iff, ne_eq, isCurrentDirectory_iff]
  exact h.1

/-- The names of a project follow from one name. -/
structure GoesBy (s : Settings) (name : String) : Prop where
  displayName : s.displayName = name
  packageName : s.packageName = if isPackageName name then name else toPackageName name
  moduleName : s.moduleName = toModuleName name

/-- A project goes by the name that it is shown with. -/
lemma goesBy_displayName (s : Settings) : s.GoesBy s.displayName :=
  ⟨rfl, rfl, rfl⟩

section Telling

variable [Terminal]

/-- What the user is told about entering the directory of a project. -/
def entering (s : Settings) : String :=
  if s.isCurrentDirectory then ""
  else Terminal.literal ("  " ++ enterCommand s.resolvedProjectName)

/-- What the user is told to do in the directory of a project whose module has some name. -/
def stepsInside (moduleName : String) (bootstrapped : Bool) : String :=
  (if bootstrapped then "" else Terminal.literal "  make bootstrap") ++
    Terminal.literal "  swift build" ++ Terminal.literal ("  swift run " ++ moduleName)

/-- The steps that the user is told begin with entering the directory, and then depend on the name of
the module only. What is missing is told last, whatever the settings are. -/
lemma nextSteps_eq (s : Settings) (around : Surroundings) (bootstrapped : Bool) :
    nextSteps around s bootstrapped = (do
      Act.print (Terminal.literal "" ++ Terminal.literal "Template created! To get started run:" ++
        s.entering ++ stepsInside s.moduleName bootstrapped)
      closeGuidance around bootstrapped) := by
  cases hcurrent : s.isCurrentDirectory with
  | true => simp [nextSteps, stepsText, entering, stepsInside, hcurrent, String.append_assoc]
  | false =>
      simp [nextSteps, stepsText, entering, stepsInside, displayName, hcurrent, String.append_assoc]

/-- **Knowing the working directory.** A project that is known to go into the working directory goes
there. Being known to and going there are the same exactly if the name of the project is not a disguise
of that directory. If the project is known to go there, its names follow from the name of the working
directory and nothing is said about entering a directory; otherwise both follow from the name of the
project, be it a disguise or not. -/
theorem isCurrentDirectory_iff_directory (s : Settings) :
    (s.isCurrentDirectory = true → s.directory = s.workingDirectory) ∧
    ((s.isCurrentDirectory = true ↔ s.directory = s.workingDirectory) ↔ ¬ s.DisguisesHere) ∧
    s.GoesBy (if s.isCurrentDirectory then s.workingDirectory.name else s.resolvedProjectName) ∧
    ∀ around bootstrapped, nextSteps around s bootstrapped = (do
      Act.print (Terminal.literal "" ++ Terminal.literal "Template created! To get started run:" ++
        s.entering ++ stepsInside s.moduleName bootstrapped)
      closeGuidance around bootstrapped) := by
  refine ⟨fun hcurrent => ?_, ?_, s.goesBy_displayName, s.nextSteps_eq⟩
  · exact directory_eq_workingDirectory_iff.mpr (.inl hcurrent)
  · rw [directory_eq_workingDirectory_iff]
    constructor
    · intro hiff hdisguise
      have hcurrent := hiff.mpr (.inr hdisguise)
      rw [not_isCurrentDirectory_of_disguisesHere hdisguise] at hcurrent
      cases hcurrent
    · intro hplain
      rw [or_iff_left hplain]

end Telling

/-- A project called `./` goes into the working directory, but is not known to. -/
theorem workingDirectory_in_disguise :
    ¬ ∀ s : Settings, s.isCurrentDirectory = true ↔ s.directory = s.workingDirectory := by
  intro h
  have hhere := h { projectName := some "./", workingDirectory := ⟨.root, ["work"]⟩ }
  revert hhere
  decide

end Settings

end Scaffold
